/-
**Conditions of the extended language.**

A condition may be made of the words of a command, or be a command of its own, in which words are not split
and texts are compared with patterns and regular expressions.

* `wordsHold`: whether the words of a condition are true;
* `Test.status`: the status of a condition that is a command.
-/

import Workyard.Shell.Condition
import Workyard.Shell.Extended.Printing
import Workyard.Shell.RegexSyntax
import Workyard.Shell.Running

namespace Workyard.Shell.Extended

/-! ### Questions and comparisons -/

/-- Whether a word is a question about another one. -/
def isQuestion (word : Octets) : Bool :=
  match word with
  | ['-', c] => "abcdefghknoprstuvwxzGLNORS".toList.contains c
  | _ => false

/-- Whether a word compares two others. -/
def isComparison (word : Octets) : Bool :=
  ["=", "==", "!=", "<", ">", "-eq", "-ne", "-lt", "-le", "-gt", "-ge", "-nt", "-ot", "-ef"].contains
    (spelled word)

/-- Whether a variable, or a member of a list, has a value. -/
def isSet (shell : State) (word : Octets) : Bool :=
  let name := word.takeWhile isNameChar
  let entries := ((shell.found (spelled name)).map (·.entries)).getD []
  match word.drop name.length with
  | [] => if isDigits word then (shell.parameter (spelled word)).isSome else (shell.value (spelled word)).isSome
  | '[' :: rest =>
    let key := rest.dropLast
    if key = ['@'] || key = ['*'] then !entries.isEmpty
    else
      let isTable : Bool := (shell.found (spelled name)).any (·.shape = .table)
      let bare := key.filter fun c => c ≠ '"' && c ≠ '\''
      if isTable then (entries.lookup bare).isSome
      else match numberOf bare with
        | some number => (entries.lookup (decimal number.toNat)).isSome
        | none => match (shell.value (spelled bare)).bind count? with
          | some number => (entries.lookup (decimal number)).isSome
          | none => (entries.lookup ['0']).isSome
  | _ => false

/-- The answer to a question about a word. -/
def answerTo (shell : State) (tree : Files.Tree) (question : Octets) (word : Octets) : Bool :=
  match question with
  | ['-', 'n'] => word ≠ []
  | ['-', 'z'] => word = []
  | ['-', 't'] => false
  | ['-', 'v'] => isSet shell word
  | ['-', 'o'] => (optionNames.lookup (spelled word)).any shell.options.contains
  | ['-', 'R'] => (shell.held (spelled word)).any (·.marks.contains 'n')
  | ['-', 'N'] => false
  | ['-', 'a'] => (answer tree "-e" word).toOption.getD false
  | _ => (answer tree (spelled question) word).toOption.getD false

/-- A comparison of two numbers by its name. -/
def numeric (name : String) (left right : Int) : Bool :=
  match name with
  | "-eq" => left = right
  | "-ne" => left ≠ right
  | "-lt" => left < right
  | "-le" => left ≤ right
  | "-gt" => right < left
  | _ => right ≤ left

/-- Whether a comparison is one of numbers. -/
def isNumeric (name : String) : Bool := ["-eq", "-ne", "-lt", "-le", "-gt", "-ge"].contains name

/-- Whether a comparison of two files holds; a file that is not there is older than others. -/
def fileComparison (tree : Files.Tree) (name : String) (left right : Octets) : Bool :=
  let time (word : Octets) : Option Nat := (tree.find (spelled word)).toOption.map (·.time)
  match name, time left, time right with
  | "-nt", some first, some second => second < first
  | "-nt", some _, none => true
  | "-ot", some first, some second => first < second
  | "-ot", none, some _ => true
  | "-ef", _, _ => ((Comparison.sameFile.holds tree left right).toOption).getD false
  | _, _, _ => false

/-- Whether two words of a condition compare as a third says, or the complaint about them. -/
def compared (tree : Files.Tree) (left name right : Octets) : Except Octets Bool := do
  let text := spelled name
  let number (word : Octets) : Except Octets Int := match signed? (stripped word) with
    | some value =>
      if -(Int.pow 2 63) ≤ value && value < Int.pow 2 63 then .ok value
      else .error (word ++ octets ": integer expression expected")
    | none => .error (word ++ octets ": integer expression expected")
  if isNumeric text then return numeric text (← number left) (← number right)
  else return match text with
    | "=" | "==" => left = right
    | "!=" => left ≠ right
    | "<" => left < right
    | ">" => right < left
    | _ => fileComparison tree text left right

/-! ### Conditions of words -/

/-- What a condition of words is read from. -/
structure Asking where
  shell : State
  tree : Files.Tree
  /-- What ends the words, if that is one of them. -/
  closing : Option Octets := none

/-- What reading a part of a condition gives: whether it is true, and the words behind it. -/
abbrev Asked := Except Octets (Bool × List Octets)

/-- The complaint about words that end too early. -/
def tooEarly {α : Type} : Except Octets α := .error (octets "argument expected")

/-- The complaint about a word where a question is expected. -/
def noQuestion {α : Type} (word : Octets) : Except Octets α := .error (word ++ octets ": unary operator expected")

mutual

/-- Reads conditions joined by `-o`. -/
def anyOf (asking : Asking) : Nat → List Octets → Asked
  | 0, words => .ok (false, words)
  | fuel + 1, words => do
    let (first, rest) ← allOf asking fuel words
    match rest with
    | ['-', 'o'] :: rest =>
      let (second, rest) ← anyOf asking fuel rest
      return (first || second, rest)
    | _ => return (first, rest)

/-- Reads conditions joined by `-a`. -/
def allOf (asking : Asking) : Nat → List Octets → Asked
  | 0, words => .ok (false, words)
  | fuel + 1, words => do
    let (first, rest) ← term asking fuel words
    match rest with
    | ['-', 'a'] :: rest =>
      let (second, rest) ← allOf asking fuel rest
      return (first && second, rest)
    | _ => return (first, rest)

/-- Reads one condition. -/
def term (asking : Asking) : Nat → List Octets → Asked
  | 0, words => .ok (false, words)
  | _, [] => tooEarly
  | fuel + 1, word :: rest => do
    let back := Char.ofNat 96
    if word = ['!'] then
      if rest = [] then tooEarly
      else
        let (value, rest) ← term asking fuel rest
        return (!value, rest)
    else if word = ['('] then
      if rest = [] then tooEarly
      else
        let (value, rest) ← anyOf asking fuel rest
        match rest with
        | [')'] :: rest => return (value, rest)
        | other :: _ => .error (back :: octets ")' expected, found " ++ other)
        | [] => .error (match asking.closing with
          | some other => back :: octets ")' expected, found " ++ other
          | none => back :: octets ")' expected")
    else match rest with
      | name :: right :: rest =>
        if isComparison name then return (← compared asking.tree word name right, rest)
        else question word (name :: right :: rest)
      | rest => question word rest
where
  /-- A question about the word behind it, or a word alone. -/
  question (word : Octets) (rest : List Octets) : Asked :=
    match word with
    | ['-', _] =>
      if !isQuestion word then noQuestion word
      else match rest with
        | [] => tooEarly
        | subject :: rest => .ok (answerTo asking.shell asking.tree word subject, rest)
    | word => .ok (word ≠ [], rest)

end

/-- Whether two words are true. -/
def twoHold (asking : Asking) (first second : Octets) : Except Octets Bool :=
  if first = ['!'] then .ok (second = [])
  else if isQuestion first then .ok (answerTo asking.shell asking.tree first second)
  else noQuestion first

/-- Whether three words are true. -/
def threeHold (asking : Asking) (first second third : Octets) : Except Octets Bool :=
  if isComparison second then compared asking.tree first second third
  else if second = ['-', 'a'] then .ok (first ≠ [] && third ≠ [])
  else if second = ['-', 'o'] then .ok (first ≠ [] || third ≠ [])
  else if first = ['!'] then not <$> twoHold asking second third
  else if first = ['('] && third = [')'] then .ok (second ≠ [])
  else .error (second ++ octets ": binary operator expected")

/-- Whether the words of a condition are true, or the complaint about them. -/
def wordsHold (asking : Asking) (words : List Octets) : Except Octets Bool :=
  let any : Except Octets Bool := do
    let (value, rest) ← anyOf asking (4 * words.length + 4) words
    match rest with
    | [] => return value
    | ('-' :: more) :: _ =>
      throw (octets "syntax error: " ++ Char.ofNat 96 :: '-' :: more ++ octets "' unexpected")
    | _ => throw (octets "too many arguments")
  match words with
  | [] => .ok false
  | [word] => .ok (word ≠ [])
  | [first, second] => twoHold asking first second
  | [first, second, third] => threeHold asking first second third
  | [first, second, third, fourth] =>
    if first = ['!'] then not <$> threeHold asking second third fourth
    else if first = ['('] && fourth = [')'] then twoHold asking second third
    else any
  | _ => any

/-! ### Conditions that are commands -/

/-- The dialect of the regular expressions. -/
def regexDialect : Dialect := { extended := true, helps := false }

/-- The regular expression that glyphs spell; what is quoted does not act. -/
def regexText (glyphs : List Glyph) : Octets :=
  glyphs.flatMap fun glyph => match glyph with
    | .letter .quoted c => if c.isAlphanum || c = '_' || c.toNat ≥ 128 || c.toNat ≤ 32 then [c] else
        if "^$.[]|()*+?\x7b\x7d\\".toList.contains c then ['\\', c] else [c]
    | .letter _ c => [c]
    | .border => [' ']
    | .quotes => []

/-- Keeps what a regular expression matched, and each of its groups. -/
def keepMatches (values : List Octets) : Act Unit := putVariable "BASH_REMATCH" (some (Variable.ofRow values))

/-- The status of a regular expression against a text. -/
def regexStatus (ignoresCase : Bool) (text expression : Octets) : Act Nat := do
  match Regex.read regexDialect expression with
  | .error _ => return 2
  | .ok (regex, groups, _) =>
    let characters := text.toArray
    match regex.find? { text := characters, ignoresCase } 0 with
    | none =>
      keepMatches []
      return 1
    | some found =>
      keepMatches ((List.range (groups + 1)).map fun number => (found.taken characters number).getD [])
      return 0

/-- A word of a condition as it is traced. -/
def tracedTest (text : Octets) : Octets := tracedWord text

/-- A pattern of a condition as it is traced. -/
def tracedPattern (glyphs : List Glyph) : Octets :=
  glyphs.flatMap fun glyph => match glyph with
    | .letter .quoted c => ['\\', c]
    | .letter _ c => [c]
    | _ => []

/-- The status of a condition, which is traced with what was written in front of it. -/
def testStatus (capture : Capture) (handle : Option Handle) (negated : Bool) : Test → Act Nat
  | .not operand => do
    let status ← testStatus capture handle (!negated) operand
    return if status = 0 then 1 else if status = 1 then 0 else status
  | .both first second => do
    let status ← testStatus capture handle negated first
    if status = 0 then testStatus capture handle negated second else return status
  | .either first second => do
    let status ← testStatus capture handle negated first
    if status = 0 then return 0 else testStatus capture handle negated second
  | .one question operand => do
    let text ← joined capture operand
    traced (octets question ++ ' ' :: tracedTest text)
    return if answerTo (← get) (← tree) (octets question) text then 0 else 1
  | .two comparison left right => do
    let first ← joined capture left
    let shell ← get
    let folds : Bool := shell.extra.switches.contains "nocasematch"
    let folded (text : Octets) : Octets := if folds then text.map Char.toLower else text
    let glyphs ← glyphs capture false true right
    let second := glyphText glyphs
    let front := tracedTest first ++ octets s!" {comparison} "
    let matching : Act Bool := do
      traced (front ++ (if second = [] then ['\'', '\''] else tracedPattern glyphs))
      let marked := (markedGlyphs glyphs).map fun c => (if folds then c.1.toLower else c.1, c.2)
      return (markedPattern { shell.patternRules with groups := true } marked).matches (folded first)
    match comparison with
    | "=" | "==" => return if ← matching then 0 else 1
    | "!=" => return if ← matching then 1 else 0
    | "=~" =>
      traced (front ++ (if second = [] then ['\'', '\''] else tracedPattern glyphs))
      regexStatus folds first (regexText glyphs)
    | _ =>
      traced (front ++ tracedTest second)
      if isNumeric comparison then
        let value (text : Octets) : Act Int := if text.all isSpace then pure 0 else evaluate text
        match ← attempt (during (octets "[[") do return (← value first, ← value second)) with
        | .ok (left, right) => return if numeric comparison left right then 0 else 1
        | .error .failed => return 1
        | .error other => throw other
      else match compared (← tree) first (octets comparison) second with
        | .ok true => return 0
        | _ => return 1
where
  /-- Writes what is asked, if the shell does so. -/
  traced (words : Octets) : Act Unit :=
    traceLine capture handle (octets (if negated then "[[ ! " else "[[ ") ++ words ++ octets " ]]")

end Workyard.Shell.Extended
