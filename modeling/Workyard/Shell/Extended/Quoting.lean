/-
**Values as they are written in commands.**

A value is shown in such a way that a shell reads it back: in single or double quotes, with backslashes, or
with escapes if not all of it can be printed.

* `inSingle`, `inDouble`, `withBackslashes`: the three ways of quoting;
* `listText`: the members of a list.
-/

import Workyard.Shell.Process

namespace Workyard.Shell.Extended

/-- Whether a character can be printed. -/
def isVisible (c : Char) : Bool := ' ' ≤ c && c ≤ '~'

/-- A text with escapes for what cannot be printed. -/
def inEscapes (text : Octets) : Octets :=
  let shown (c : Char) : Octets :=
    match c with
    | '\x07' => ['\\', 'a']
    | '\x08' => ['\\', 'b']
    | '\x1b' => ['\\', 'E']
    | '\x0c' => ['\\', 'f']
    | '\n' => ['\\', 'n']
    | '\x0d' => ['\\', 'r']
    | '\t' => ['\\', 't']
    | '\x0b' => ['\\', 'v']
    | '\\' => ['\\', '\\']
    | _ =>
      if c = '\'' then ['\\', c]
      else if isVisible c then [c]
      else
        let digits := Nat.toDigits 8 c.toNat
        '\\' :: List.replicate (3 - digits.length) '0' ++ digits
  ['$', '\''] ++ text.flatMap shown ++ ['\'']

/-- Whether a text needs escapes. -/
def needsEscapes (text : Octets) : Bool := text.any fun c => !isVisible c

/-- A text in single quotes. -/
def inSingle (text : Octets) : Octets :=
  if text = ['\''] then ['\\', '\'']
  else '\'' :: (text.flatMap fun c => if c = '\'' then octets "'\\''" else [c]) ++ ['\'']

/-- A text in double quotes. -/
def inDouble (text : Octets) : Octets :=
  '"' :: (text.flatMap fun c =>
    if c = '"' || c = '$' || c = '\\' || c = Char.ofNat 96 then ['\\', c] else [c]) ++ ['"']

/-- A text in quotes, whatever is in it. -/
def quotedAlways (text : Octets) : Octets := if needsEscapes text then inEscapes text else inSingle text

/-- Whether a shell sees more in a character than itself. -/
def isSpecial (c : Char) : Bool :=
  [' ', '\t', '\n', '\'', '"', '\\', '|', '&', ';', '(', ')', '<', '>', '!', '{', '}', '*', '[', ']', '?',
    '^', '$', Char.ofNat 96, ','].contains c

/-- A text with a backslash in front of what a shell would see more in. -/
def withBackslashes (text : Octets) : Octets :=
  if text = [] then ['\'', '\'']
  else if needsEscapes text then inEscapes text
  else
    let marked := text.zipIdx.flatMap fun (c, index) =>
      if isSpecial c || (index = 0 && (c = '#' || c = '~')) then ['\\', c] else [c]
    marked

/-- Whether a shell sees more in a text than a word. -/
def hasSpecial (text : Octets) : Bool :=
  text.zipIdx.any fun (c, index) =>
    (isSpecial c && c ≠ ',' && c ≠ '{' && c ≠ '}') || c = '{' || c = '}' ||
      (c = '#' && index = 0) ||
      (c = '~' && (index = 0 || text[index - 1]? = some '=' || text[index - 1]? = some ':'))

/-- A value as it is shown among variables: in quotes only if they are needed. -/
def shownValue (text : Octets) : Octets :=
  if needsEscapes text then inEscapes text
  else if hasSpecial text then inSingle text
  else text

/-- A value in double quotes, or with escapes. -/
def declaredValue (text : Octets) : Octets := if needsEscapes text then inEscapes text else inDouble text

/-- The key of a member as it is shown. -/
def shownKey (shape : Shape) (key : Octets) : Octets :=
  if shape = .table && (needsEscapes key || hasSpecial key || key = []) then
    (if needsEscapes key then inEscapes key else inDouble key)
  else key

/-- The members of a list as they are shown. -/
def listText (shape : Shape) (members : List (Octets × Octets)) : Octets :=
  let shown := members.map fun (key, text) =>
    '[' :: shownKey shape key ++ [']', '='] ++ declaredValue text
  '(' :: joinedBy [' '] shown ++ (if shape = .table && members ≠ [] then [' ', ')'] else [')'])

/-- The letters of how a variable was declared. -/
def Variable.letters (held : Variable) : List Char :=
  (match held.shape with
  | .single => []
  | .row => ['a']
  | .table => ['A']) ++
    (if held.marks.contains 'i' then ['i'] else []) ++
    (if held.marks.contains 'n' then ['n'] else []) ++
    (if held.fixed then ['r'] else []) ++
    (if held.marks.contains 't' then ['t'] else []) ++
    (if held.exported then ['x'] else []) ++
    (if held.marks.contains 'l' then ['l'] else []) ++
    (if held.marks.contains 'u' then ['u'] else [])

/-- What declares a variable as it is. -/
def declaration (name : String) (held : Variable) : Octets :=
  let letters := Variable.letters held
  let front := octets "declare -" ++ (if letters = [] then ['-'] else letters) ++ octets s!" {name}"
  match held.shape with
  | .single => front ++ (match held.text with
    | some text => '=' :: declaredValue text
    | none => [])
  | shape => front ++ (if held.members = [] && !held.marks.contains '=' then []
    else '=' :: listText shape held.members)

end Workyard.Shell.Extended
