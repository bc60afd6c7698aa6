/-
**Reading a command line.**

A command line is a list of words. An option starts with two dashes and has its value in the same word
behind an equals sign or in the next word; a flag has none. Words that are not options name a command,
where there are commands. An option that is not given may be taken from the environment. The words are
read from left to right, and the first that cannot be read, or that asks for help or the version,
decides.

* `readWords`: the options of one level, and what follows the name of a command;
* `fill`: the options that the environment gives.
-/

import Workyard.Text.Numeral
import Workyard.Text.Split

namespace Workyard.CommandLine

/-- How many values an option has. -/
inductive Arity where
  /-- None; it is given or not. -/
  | flag
  /-- One, given once. -/
  | single
  /-- Any number, given in several options or between commas. -/
  | many
deriving DecidableEq, Repr

/-- An option that can be given. -/
structure Switch where
  name : String
  arity : Arity := .single
  /-- The variable of the environment that stands for it. -/
  fallback : Option String := none
  /-- Whether a text can be its value. -/
  accepts : String → Bool := fun _ => true

/-- Why a command line is not carried out. -/
inductive Stop where
  /-- It cannot be read. -/
  | usage
  /-- It asks for help. -/
  | help
  /-- It asks for the version. -/
  | version
deriving DecidableEq, Repr

/-- The values of options by name; a flag that is given has none. -/
abbrev Given := List (String × List String)

/-- The options of a level and the words behind the name of a command. -/
structure Level where
  given : Given
  command : Option (String × List String) := none

/-- What can be given at a level. -/
structure Grammar where
  switches : List Switch
  commands : List String := []
  /-- Whether the version can be asked for. -/
  versioned : Bool := false

namespace Grammar

/-- The values in a text. -/
def values (switch : Switch) (text : String) : List String :=
  match switch.arity with
  | .many => (Text.split ',' text.toList).map String.ofList
  | _ => [text]

/-- Whether a word can only be an option. -/
def isDashed (word : List Char) : Bool := word.head? = some '-' && 1 < word.length

/-- Notes values of an option; only one that takes many can be given twice. -/
def give (switch : Switch) (texts : List String) (given : Given) : Except Stop Given :=
  if !texts.all switch.accepts then .error .usage
  else match given.lookup switch.name with
    | none => .ok ((switch.name, texts) :: given)
    | some before =>
      if switch.arity = .many then
        .ok ((switch.name, before ++ texts) :: given.filter (·.1 ≠ switch.name))
      else .error .usage

/-- What a word with one dash asks for. -/
def short (grammar : Grammar) : List Char → Stop
  | '-' :: 'h' :: _ => .help
  | '-' :: 'V' :: _ => if grammar.versioned then .version else .usage
  | _ => .usage

/-- What a word with two dashes asks for if it is no option. -/
def unknown (grammar : Grammar) (name : List Char) : Stop :=
  if name = "help".toList then .help
  else if name = "version".toList && grammar.versioned then .version
  else .usage

/-- Reads words. -/
def readWords (grammar : Grammar) (given : Given) : List String → Except Stop Level
  | [] => .ok ⟨given, none⟩
  | word :: rest =>
    let chars := word.toList
    if chars = ['-', '-'] then if rest.isEmpty then .ok ⟨given, none⟩ else .error .usage
    else match chars with
      | '-' :: '-' :: body =>
        let name := body.takeWhile (· ≠ '=')
        let attached := body.drop name.length
        match grammar.switches.find? (·.name.toList = name) with
        | none => .error (if attached.isEmpty then grammar.unknown name else .usage)
        | some switch =>
          if switch.arity = .flag then
            if !attached.isEmpty then .error .usage
            else match give switch [] given with
              | .ok given => readWords grammar given rest
              | .error stop => .error stop
          else if !attached.isEmpty then
            match give switch (values switch (String.ofList (attached.drop 1))) given with
            | .ok given => readWords grammar given rest
            | .error stop => .error stop
          else match rest with
            | [] => .error .usage
            | value :: rest =>
              if isDashed value.toList then .error .usage
              else match give switch (values switch value) given with
                | .ok given => readWords grammar given rest
                | .error stop => .error stop
      | _ =>
        if isDashed chars then .error (grammar.short chars)
        else if grammar.commands.contains word then .ok ⟨given, some (word, rest)⟩
        else .error .usage

/-- Adds the options that the environment gives and the words do not. -/
def fill (environment : List (String × String)) (given : Given) : List Switch → Except Stop Given
  | [] => .ok given
  | switch :: rest =>
    let text := switch.fallback.bind fun name => environment.lookup name
    match given.lookup switch.name, text with
    | none, some text =>
      let texts := values switch text
      if texts.all switch.accepts then fill environment ((switch.name, texts) :: given) rest
      else .error .usage
    | _, _ => fill environment given rest

/-- Reads words and takes the rest from the environment. -/
def read (grammar : Grammar) (environment : List (String × String)) (words : List String) :
    Except Stop Level := do
  let level ← grammar.readWords [] words
  let given ← fill environment level.given grammar.switches
  return { level with given }

end Grammar

namespace Given

/-- The value of an option, if it is given. -/
def text? (given : Given) (name : String) : Option String := (given.lookup name).bind List.head?

/-- The value of an option. -/
def text (given : Given) (name default : String) : String := (given.text? name).getD default

/-- The values of an option. -/
def texts (given : Given) (name : String) : List String := (given.lookup name).getD []

/-- Whether a flag is given. -/
def isSet (given : Given) (name : String) : Bool := (given.lookup name).isSome

/-- The number that an option gives. -/
def number? (given : Given) (name : String) : Option Nat := do
  match Text.parseUnsigned Text.maxU64 (← given.text? name).toList with
  | .ok value => some value
  | .error _ => none

end Given

/-- Whether a text is an unsigned number of 64 bits. -/
def isCount (text : String) : Bool :=
  Text.parseUnsigned Text.maxU64 text.toList matches .ok _

/-- The port that a text gives. -/
def port? (text : String) : Option Nat :=
  match Text.parseSigned Text.maxI64 text.toList with
  | .ok value => if 0 ≤ value && value ≤ Text.maxU16 then some value.toNat else none
  | .error _ => none

end Workyard.CommandLine
