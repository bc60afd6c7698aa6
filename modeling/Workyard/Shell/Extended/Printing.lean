/-
**Words and commands as they are shown.**

What was read can be shown again. Quotes are shown in one way, whichever were read.

* `wordText`: a word;
* `commandText`: a command, as the shell shows the functions that it knows.
-/

import Workyard.Shell.Extended.Quoting
import Workyard.Shell.Syntax

namespace Workyard.Shell.Extended

/-- The sign of an operator. -/
def operatorText : Operator → String
  | .value => ""
  | .length => ""
  | .default colon => if colon then ":-" else "-"
  | .assign colon => if colon then ":=" else "="
  | .require colon => if colon then ":?" else "?"
  | .replace colon => if colon then ":+" else "+"
  | .dropFront longest => if longest then "##" else "#"
  | .dropBack longest => if longest then "%%" else "%"
  | .slice _ => ":"
  | .substitute .first => "/"
  | .substitute .every => "//"
  | .substitute .front => "/#"
  | .substitute .back => "/%"
  | .recase .large every => if every then "^^" else "^"
  | .recase .small every => if every then ",," else ","
  | .recase .other every => if every then "~~" else "~"
  | .transform letter => "@" ++ String.singleton letter
  | .names separately => if separately then "@" else "*"
  | .invalid => ""

/-- A piece of a line, or the end of one with what the next begins with. -/
abbrev Lines := List Octets

/-- Puts a text in front of lines. -/
def Lines.after (front : Octets) : Lines → Lines
  | [] => [front]
  | first :: rest => (front ++ first) :: rest

/-- Puts a text behind lines. -/
def Lines.before (lines : Lines) (behind : Octets) : Lines :=
  match lines.reverse with
  | [] => [behind]
  | last :: rest => ((last ++ behind) :: rest).reverse

/-- Lines that stand farther to the right. -/
def Lines.indented (lines : Lines) : Lines := lines.map fun line => octets "    " ++ line

/-- Lines that go on in the last of others. -/
def Lines.joined (first second : Lines) : Lines :=
  match first.reverse, second with
  | [], second => second
  | last :: front, next :: rest => front.reverse ++ (last ++ next) :: rest
  | _, [] => first

/-- Whether a command is the one that does nothing. -/
def isNothing : Command → Bool
  | .sequence [] => true
  | _ => false

/-- Whether a command carries its own end, so that nothing has to stand behind it. -/
def isBackground : Command → Bool
  | .background _ => true
  | _ => false

/-- A piece of a word. -/
inductive Piece where
  | bare (text : Octets)
  /-- Text that stands for itself between quotes. -/
  | quoted (text : Octets)
  /-- What acts between double quotes. -/
  | acting (text : Octets)

/-- Whether a piece is between quotes. -/
def Piece.isQuoted : Piece → Bool
  | .bare _ => false
  | _ => true

/-- Whether something in a piece acts. -/
def Piece.acts : Piece → Bool
  | .quoted _ => false
  | _ => true

/-- The text of a piece. -/
def Piece.text : Piece → Octets
  | .bare text => text
  | .quoted text => text
  | .acting text => text

/-- The text of a piece between double quotes. -/
def Piece.escaped : Piece → Octets
  | .quoted text => ((inDouble text).drop 1).dropLast
  | piece => piece.text

/-- Pieces in one pair of quotes. -/
def Piece.inQuotes (pieces : List Piece) : Octets :=
  let text := pieces.flatMap (·.text)
  if pieces.any (·.acts) then '"' :: pieces.flatMap (·.escaped) ++ ['"']
  else if text.contains '"' || text.contains '$' || text.contains '\\' then inSingle text
  else inDouble text

/-- The text of pieces, with one pair of quotes around those that are quoted together. -/
def Piece.joined : Nat → List Piece → Octets
  | 0, _ => []
  | _, [] => []
  | fuel + 1, .bare text :: rest => text ++ joined fuel rest
  | fuel + 1, piece :: rest =>
    inQuotes (piece :: rest.takeWhile (·.isQuoted)) ++ joined fuel (rest.dropWhile (·.isQuoted))

/-- The text of a word in pieces. -/
def wordOf (pieces : List Piece) : Octets := Piece.joined (pieces.length + 1) pieces

/-- What acts in a word, between quotes or bare. -/
def Piece.ofActing (inQuotes : Bool) (text : Octets) : Piece := if inQuotes then .acting text else .bare text

/-- A text in braces behind a dollar sign. -/
def inBraces (text : Octets) : Octets := ['$', '\x7b'] ++ text ++ ['\x7d']

/-- The sign in front of a parameter whose length is wanted. -/
def lengthSign (operator : Operator) : Octets := if operator = .length then ['#'] else []

/-- A place in a list, which may be missing. -/
def inBrackets (place : Octets) : Octets := if place = [] then [] else '[' :: place ++ [']']

/-- A parameter of the plain language. -/
def parameterText (name : String) (operator : Operator) (operand : Octets) : Octets :=
  if operator = .value && operand = [] then '$' :: octets name
  else inBraces (lengthSign operator ++ octets (name ++ operatorText operator) ++ operand)

/-- The sign between the two operands of an operator. -/
def betweenOperands : Operator → Octets
  | .slice true => [':']
  | .substitute _ => ['/']
  | _ => []

/-- A parameter of the extended language. -/
def memberText (indirect : Bool) (name : String) (place : Octets) (operator : Operator)
    (first second : Octets) : Octets :=
  let sign := if indirect then ['!'] else []
  let front := lengthSign operator ++ sign ++ octets name ++ inBrackets place
  inBraces (front ++ octets (operatorText operator) ++ first ++ betweenOperands operator ++ second)

/-- What gives a variable a value. -/
def assigned (name : String) (place : Octets) (appends : Bool) (value : Octets) : Octets :=
  octets name ++ inBrackets place ++ octets (if appends then "+=" else "=") ++ value

/-- A descriptor where another is usual. -/
def descriptorText (usual descriptor : Nat) : Octets := if descriptor = usual then [] else decimal descriptor

/-- A redirection to or from a file. -/
def fileText (descriptor : Nat) (kind : RedirectKind) (target : Octets) : Octets :=
  match kind with
  | .input => descriptorText 0 descriptor ++ octets "< " ++ target
  | .output => descriptorText 1 descriptor ++ octets "> " ++ target
  | .clobber => descriptorText 1 descriptor ++ octets ">| " ++ target
  | .append => descriptorText 1 descriptor ++ octets ">> " ++ target
  | .readWrite => descriptorText 0 descriptor ++ octets "<> " ++ target
  | .duplicate => decimal descriptor ++ octets (if descriptor = 0 then "<&" else ">&") ++ target
  | .here => octets "<<"

/-- Texts that each have a blank in front. -/
def spaced (texts : List Octets) : Octets := texts.flatMap fun text => ' ' :: text

/-- Lines of which the last is ended, unless a sign ends it. -/
def Lines.finished (lines : Lines) : Lines :=
  match lines.getLast? with
  | some last => if last.getLast? = some '&' then lines else lines.before [';']
  | none => lines

/-- Commands in parentheses. -/
def Lines.inParentheses (lines : Lines) (redirects : Octets) : Lines :=
  Lines.before (Lines.after (octets "( ") lines) (octets " )" ++ redirects)

/-- Commands in braces. -/
def Lines.grouped (tall : Bool) (inside : Lines) : Lines :=
  if tall then octets "\x7b " :: Lines.indented inside ++ [['\x7d']]
  else Lines.before (Lines.after (octets "\x7b ") inside.finished) (octets " \x7d")

/-- The lines of a choice between commands; there may be nothing to carry out otherwise. -/
def branchLines (condition body otherwise : Lines) : Lines :=
  let front := Lines.before (Lines.finished (Lines.after (octets "if ") condition)) (octets " then")
  let back := if otherwise = [] then [] else octets "else" :: otherwise.finished.indented
  front ++ body.finished.indented ++ back ++ [octets "fi"]

/-- The lines of a loop with a condition. -/
def loopLines (untilTrue : Bool) (condition body : Lines) : Lines :=
  let front := Lines.after (octets (if untilTrue then "until " else "while ")) condition
  front.finished.before (octets " do") ++ body.finished.indented ++ [octets "done"]

/-- The lines of a loop that starts with a line of its own. -/
def eachLines (front : Octets) (body : Lines) : Lines :=
  front :: octets "do" :: body.finished.indented ++ [octets "done"]

/-- The front of a loop with a count. -/
def countingText (start condition change : Octets) : Octets :=
  let trimmed (text : Octets) : Octets := text.dropWhile (· = ' ')
  octets "for ((" ++ start ++ octets "; " ++ trimmed condition ++ octets "; " ++ trimmed change ++ octets "))"

/-- The lines of an arm of a selection. -/
def armLines (patterns : List Octets) (body : Lines) (follow : Follow) : Lines :=
  let sign := match follow with
    | .stop => ";;"
    | .fall => ";&"
    | .resume => ";;&"
  let inside := if body = [] then [[]] else body.indented
  Lines.indented ((joinedBy (octets " | ") patterns ++ [')']) :: inside ++ [octets sign])

/-- The lines of the body of a function, which always stand in braces. -/
def bodyLines (lines : Lines) : Command → Lines
  | .group _ => lines
  | .redirected _ (.group _) _ => lines
  | _ => octets "\x7b " :: lines.indented ++ [['\x7d']]

mutual

/-- A part of a word as it is shown. -/
def partPiece : Part → Piece
  | .plain text => .bare text
  | .quoted text => .quoted text
  | .parameter inQuotes name operator operand =>
    .ofActing inQuotes (parameterText name operator (wordOf (pieces operand)))
  | .member inQuotes indirect name index operator first second =>
    .ofActing inQuotes (memberText indirect name (wordOf (pieces index)) operator
      (wordOf (pieces first)) (wordOf (pieces second)))
  | .output inQuotes body =>
    .ofActing inQuotes (octets "$(" ++ joinedBy ['\n'] (commandLines false body) ++ [')'])
  | .arithmetic inQuotes expression =>
    .ofActing inQuotes (octets "$((" ++ wordOf (pieces expression) ++ octets "))")
  | .channel reads body =>
    .bare (octets (if reads then "<(" else ">(") ++ joinedBy ['\n'] (commandLines false body) ++ [')'])
  | .list members => .bare ('(' :: joinedBy [' '] (membersTexts members) ++ [')'])

/-- The parts of a word as they are shown. -/
def pieces : List Part → List Piece
  | [] => []
  | part :: rest => partPiece part :: pieces rest

/-- The members of a list as they are shown. -/
def membersTexts : List Member → List Octets
  | [] => []
  | .next value :: rest => wordOf (pieces value) :: membersTexts rest
  | .at key appends value :: rest =>
    assigned "" (wordOf (pieces key)) appends (wordOf (pieces value)) :: membersTexts rest

/-- Words as they are shown. -/
def wordsTexts : List (List Part) → List Octets
  | [] => []
  | word :: rest => wordOf (pieces word) :: wordsTexts rest

/-- Assignments as they are shown. -/
def assignmentsTexts : List Assignment → List Octets
  | [] => []
  | .mk name index appends value :: rest =>
    assigned name (wordOf (pieces index)) appends (wordOf (pieces value)) :: assignmentsTexts rest

/-- A redirection as it is shown. -/
def redirectText : Redirect → Octets
  | .file descriptor kind target => fileText descriptor kind (wordOf (pieces target))
  | .document descriptor _ => descriptorText 0 descriptor ++ octets "<<"
  | .text descriptor word => descriptorText 0 descriptor ++ octets "<<< " ++ wordOf (pieces word)
  | .both appends target => octets (if appends then "&>> " else "&> ") ++ wordOf (pieces target)
  | .named name kind target =>
    let sign := if kind = .input then "< " else "> "
    octets ("\x7b" ++ name ++ "\x7d" ++ sign) ++ wordOf (pieces target)

/-- Redirections as they are shown. -/
def redirectsTexts : List Redirect → List Octets
  | [] => []
  | one :: rest => redirectText one :: redirectsTexts rest

/-- A condition as it is shown. -/
def testText : Test → Octets
  | .one question operand => octets (question ++ " ") ++ wordOf (pieces operand)
  | .two comparison left right =>
    wordOf (pieces left) ++ octets (" " ++ comparison ++ " ") ++ wordOf (pieces right)
  | .not operand => octets "! " ++ testText operand
  | .both left right => testText left ++ octets " && " ++ testText right
  | .either left right => testText left ++ octets " || " ++ testText right

/-- The words of a loop. -/
def chosenText : Option (List (List Part)) → Octets
  | some words => octets " in" ++ spaced (wordsTexts words)
  | none => octets " in \"$@\""

/-- A command as it is shown, in lines; inside of functions each command of a sequence has its own. -/
def commandLines (tall : Bool) : Command → Lines
  | .simple _ assignments words redirects written =>
    let front := if written.isEmpty then assignmentsTexts assignments ++ wordsTexts words else written
    [joinedBy [' '] (front ++ redirectsTexts redirects)]
  | .pipeline negated commands =>
    Lines.after (octets (if negated then "! " else "")) (pipelineLines tall commands)
  | .both first second =>
    Lines.joined (Lines.before (commandLines tall first) (octets " && ")) (commandLines tall second)
  | .either first second =>
    Lines.joined (Lines.before (commandLines tall first) (octets " || ")) (commandLines tall second)
  | .background body => Lines.before (commandLines tall body) (octets " &")
  | .sequence commands => sequenceLines tall commands
  | .group body => Lines.grouped tall (commandLines tall body)
  | .subshell _ body redirects =>
    Lines.inParentheses (commandLines tall body) (spaced (redirectsTexts redirects))
  | .redirected _ body redirects => Lines.before (commandLines tall body) (spaced (redirectsTexts redirects))
  | .branch condition body otherwise =>
    branchLines (commandLines tall condition) (commandLines tall body)
      (if isNothing otherwise then [] else commandLines tall otherwise)
  | .loop untilTrue condition body => loopLines untilTrue (commandLines tall condition) (commandLines tall body)
  | .each _ name words body =>
    eachLines (octets ("for " ++ name) ++ chosenText words ++ [';']) (commandLines tall body)
  | .select _ subject arms =>
    (octets "case " ++ wordOf (pieces subject) ++ octets " in ") :: (armsLines tall arms ++ [octets "esac"])
  | .define _ name body => octets ("function " ++ name ++ " () ") :: bodyLines (commandLines true body) body
  | .counting _ start condition change body =>
    eachLines (countingText (wordOf (pieces start)) (wordOf (pieces condition)) (wordOf (pieces change)))
      (commandLines tall body)
  | .menu _ name words body =>
    eachLines (octets ("select " ++ name) ++ chosenText words ++ [';']) (commandLines tall body)
  | .calculation _ expression => [octets "((" ++ wordOf (pieces expression) ++ octets "))"]
  | .condition _ test => [octets "[[ " ++ testText test ++ octets " ]]"]
  | .timed body => Lines.after (octets "time ") (commandLines tall body)

/-- The commands of a pipeline as they are shown. -/
def pipelineLines (tall : Bool) : List Command → Lines
  | [] => []
  | [only] => commandLines tall only
  | first :: rest =>
    Lines.joined (Lines.before (commandLines tall first) (octets " | ")) (pipelineLines tall rest)

/-- Commands one after another as they are shown. -/
def sequenceLines (tall : Bool) : List Command → Lines
  | [] => []
  | [only] => commandLines tall only
  | first :: rest =>
    let lines := commandLines tall first
    if isBackground first then Lines.joined (Lines.before lines [' ']) (sequenceLines tall rest)
    else if tall then Lines.before lines [';'] ++ sequenceLines tall rest
    else Lines.joined (Lines.before lines [';', ' ']) (sequenceLines tall rest)

/-- The arms of a selection as they are shown. -/
def armsLines (tall : Bool) : List (List (List Part) × Command × Follow) → Lines
  | [] => []
  | (patterns, body, follow) :: rest =>
    armLines (wordsTexts patterns) (commandLines tall body) follow ++ armsLines tall rest

end

/-- A word as it is shown. -/
def wordText (word : Word) : Octets := wordOf (pieces word)

/-- A place in a list as it is shown. -/
def placeText (index : Word) : Octets := wordOf ((pieces index).filter fun piece => piece.text ≠ [])

/-- A function as it is shown. -/
def functionText (name : String) (body : Command) : Octets :=
  let lines := octets s!"{name} () " :: bodyLines (commandLines true body) body
  lines.flatMap fun line => line ++ ['\n']

end Workyard.Shell.Extended
