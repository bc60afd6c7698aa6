/-
**Texts in quotes.**

Programs put texts that they complain about in quotes. What cannot be printed is spelled out behind
backslashes. A text may also be written as a word that a shell reads back as the same text, which needs
quotes only if the shell would see more in it.

* `inQuotes`: a text in quotes;
* `asWord`, `asQuotedWord`: a text as a word for a shell.
-/

import Workyard.Shell.Octets

namespace Workyard.Shell.Program

/-- The letters of escapes. -/
def escapeLetters : List (Char × Char) :=
  [('\x07', 'a'), ('\x08', 'b'), ('\t', 't'), ('\n', 'n'), ('\x0b', 'v'), ('\x0c', 'f'), ('\x0d', 'r')]

/-- Whether a character can be printed. -/
def isPrintable (c : Char) : Bool := ' ' ≤ c && c ≤ '~'

/-- Three octal digits. -/
def threeOctal (c : Char) : Octets :=
  let digits := Nat.toDigits 8 c.toNat
  List.replicate (3 - digits.length) '0' ++ digits

/-- What stands behind a backslash for a character that cannot be printed. -/
def spelledOut (c : Char) : Octets :=
  match escapeLetters.lookup c with
  | some letter => [letter]
  | none => threeOctal c

/-- A text in the quotes of a complaint. -/
def inQuotes (text : Octets) : Octets :=
  '\'' :: (text.flatMap fun c =>
    if c = '\'' || c = '\\' then ['\\', c]
    else if isPrintable c then [c] else '\\' :: spelledOut c) ++ ['\'']

/-- Whether a shell sees nothing more in a character, at the front of a word or further behind. -/
def isOrdinary (atFront alone : Bool) (c : Char) : Bool :=
  if c = '{' || c = '}' then !alone
  else if c = '#' || c = '~' then !atFront
  else isPrintable c && !" ?'\\!\"$&()*;<=>[^`|".toList.contains c

/-- Whether a character means the same in double quotes. -/
def isSteady (c : Char) : Bool := c.isAlphanum || "%+,-./:]_ #~'@".toList.contains c

/-- A text in single quotes, `spelling` while an escape is open. -/
def singleQuoted (spelling : Bool) : Octets → Octets
  | [] => ['\'']
  | c :: rest =>
    if c = '\'' then octets "'\\''" ++ singleQuoted false rest
    else if isPrintable c then
      (if spelling then octets "''" else []) ++ c :: singleQuoted false rest
    else (if spelling then [] else octets "'$'") ++ '\\' :: spelledOut c ++ singleQuoted true rest

/-- A text as a word in quotes. -/
def asQuotedWord (text : Octets) : Octets :=
  if text.contains '\'' && text.all isSteady then '"' :: text ++ ['"']
  else '\'' :: singleQuoted false text

/-- A text as a word, in quotes if it needs them; it does if one of further characters is in it. -/
def asWordBeside (further : Octets) (text : Octets) : Octets :=
  let alone : Bool := text.length = 1
  let plain : Bool := text ≠ [] && (text.zipIdx.all fun (c, index) =>
    isOrdinary (index = 0) alone c && !further.contains c)
  if plain then text else asQuotedWord text

/-- A text as a word in front of a colon. -/
def asWord (text : Octets) : Octets := asWordBeside [':'] text

end Workyard.Shell.Program
