/-
**The language of commands.**

A command line is made of words, redirections and the ways to put commands together. A word is a row of
parts: text that stands for itself, quoted or not, and what is put in its place when the command is
carried out, which may be the output of other commands.

There are two languages: a plain one, and an extended one that has all of it and more, such as lists,
conditions as commands of their own, and further things to do with a value.
-/

import Workyard.Shell.Octets

namespace Workyard.Shell

/-- Which of the places where a pattern matches are meant. -/
inductive Occurrence where
  | first
  | every
  | front
  | back
deriving DecidableEq, Repr

/-- Which letters a letter is changed to. -/
inductive LetterCase where
  | large
  | small
  /-- Large ones to small ones, and the other way round. -/
  | other
deriving DecidableEq, Repr

/-- A letter changed to another case. -/
def LetterCase.change (letters : LetterCase) (c : Char) : Char :=
  match letters with
  | .large => c.toUpper
  | .small => c.toLower
  | .other => if c.isUpper then c.toLower else c.toUpper

/-- What is done with the value of a parameter. -/
inductive Operator where
  | value
  | length
  /-- Stands in for a missing value; behind a colon also for an empty one. -/
  | default (colon : Bool)
  /-- The same, and the value is kept. -/
  | assign (colon : Bool)
  /-- A missing value ends the shell. -/
  | require (colon : Bool)
  /-- Stands in for a value that is there. -/
  | replace (colon : Bool)
  /-- Drops what a pattern matches at the front. -/
  | dropFront (longest : Bool)
  /-- Drops what a pattern matches at the back. -/
  | dropBack (longest : Bool)
  /-- The value from a place on, which may be limited to a length. -/
  | slice (limited : Bool)
  /-- Puts another text for what a pattern matches. -/
  | substitute (occurrence : Occurrence)
  /-- Changes letters that a pattern matches, the first one or every one. -/
  | recase (letters : LetterCase) (every : Bool)
  /-- Changes the value as a letter says. -/
  | transform (letter : Char)
  /-- The names of the variables that start with the name, together or one by one. -/
  | names (separately : Bool)
  /-- None of these; found out when the parameter is wanted. -/
  | invalid
deriving DecidableEq, Repr

/-- Whether what stands behind an operator is a pattern. -/
def Operator.takesPattern : Operator → Bool
  | .dropFront _ => true
  | .dropBack _ => true
  | _ => false

/-- What a redirection does. -/
inductive RedirectKind where
  | input
  | output
  /-- Writes into a file even if that is not to be replaced. -/
  | clobber
  | append
  | readWrite
  /-- Makes a descriptor the same as another. -/
  | duplicate
  /-- Reads from the lines behind the command. -/
  | here
deriving DecidableEq, Repr

/-- What happens behind an arm that was chosen. -/
inductive Follow where
  | stop
  /-- The next arm is carried out. -/
  | fall
  /-- The arms behind are tried. -/
  | resume
deriving DecidableEq, Repr

mutual

/-- A part of a word. -/
inductive Part where
  | plain (text : List Char)
  | quoted (text : List Char)
  | parameter (inQuotes : Bool) (name : String) (operator : Operator) (operand : List Part)
  /-- What a command writes. -/
  | output (inQuotes : Bool) (body : Command)
  /-- The value of an arithmetic expression. -/
  | arithmetic (inQuotes : Bool) (expression : List Part)
  /-- A parameter of the extended language, which may be a member of a list, or named by the value of the
  one that is written. -/
  | member (inQuotes indirect : Bool) (name : String) (index : List Part) (operator : Operator)
      (first second : List Part)
  /-- The name of a file by which a command is read from or written to. -/
  | channel (reads : Bool) (body : Command)
  /-- The members of a list. -/
  | list (members : List Member)

/-- A member of a list as it is written. -/
inductive Member where
  | next (value : List Part)
  | at (key : List Part) (appends : Bool) (value : List Part)

/-- What gives a variable, or a member of a list, a value. -/
inductive Assignment where
  | mk (name : String) (index : List Part) (appends : Bool) (value : List Part)

/-- A redirection of a descriptor. -/
inductive Redirect where
  | file (descriptor : Nat) (kind : RedirectKind) (target : List Part)
  /-- Reads from a document, which has a number. -/
  | document (descriptor number : Nat)
  /-- Reads from the text of a word. -/
  | text (descriptor : Nat) (word : List Part)
  /-- Sends output and complaints to one file. -/
  | both (appends : Bool) (target : List Part)
  /-- A redirection of a free descriptor, whose number a variable gets. -/
  | named (name : String) (kind : RedirectKind) (target : List Part)

/-- A condition of the extended language. -/
inductive Test where
  | one (question : String) (operand : List Part)
  | two (comparison : String) (left right : List Part)
  | not (operand : Test)
  | both (left right : Test)
  | either (left right : Test)

/-- A command. -/
inductive Command where
  /-- A simple command; its assignments and words may be kept as they were written. -/
  | simple (line : Nat) (assignments : List Assignment) (words : List (List Part))
      (redirects : List Redirect) (written : List (List Char))
  | pipeline (negated : Bool) (commands : List Command)
  | both (first second : Command)
  | either (first second : Command)
  | background (body : Command)
  | sequence (commands : List Command)
  /-- Commands in braces. -/
  | group (body : Command)
  | subshell (line : Nat) (body : Command) (redirects : List Redirect)
  | redirected (line : Nat) (body : Command) (redirects : List Redirect)
  | branch (condition body otherwise : Command)
  | loop (untilTrue : Bool) (condition body : Command)
  /-- For each word, or for each positional parameter. -/
  | each (line : Nat) (name : String) (words : Option (List (List Part))) (body : Command)
  | select (line : Nat) (subject : List Part) (arms : List (List (List Part) × Command × Follow))
  | define (line : Nat) (name : String) (body : Command)
  /-- Repeats commands for as long as an expression is not zero. -/
  | counting (line : Nat) (start condition change : List Part) (body : Command)
  /-- Lets one of some words be chosen, again and again. -/
  | menu (line : Nat) (name : String) (words : Option (List (List Part))) (body : Command)
  | calculation (line : Nat) (expression : List Part)
  | condition (line : Nat) (test : Test)
  /-- Tells how long commands took. -/
  | timed (body : Command)

end

/-- A word. -/
abbrev Word := List Part

/-- The command that does nothing. -/
def Command.nothing : Command := .sequence []

instance : Inhabited Command := ⟨.nothing⟩

end Workyard.Shell
