/-
**Builtins for the directory at hand, permissions and limits.**

* `cd`, `pwd`: the directory at hand;
* `pushd`, `popd`, `dirs`: the directories to go back to;
* `umask`, `ulimit`: what new files do not get, and what programs may use.
-/

import Workyard.Shell.Builtin.Place
import Workyard.Shell.Extended.Builtin.Output

namespace Workyard.Shell.Extended.Builtin

open Shell.Builtin (enter pathName setLimit)

/-! ### Going to places -/

/-- Why nobody can go to a place. -/
def refusal (tree : Files.Tree) (name : Octets) : String :=
  match tree.find (spelled name) with
  | .ok _ => "Not a directory"
  | .error (.os fault) => fault.description.1
  | .error _ => "No such file or directory"

/-- Goes to a place, perhaps by way of one of several others; says so where that is wanted. -/
def goTo (physical shows : Bool) (target : Octets) : Act Nat := do
  let shell ← get
  let straight : Bool := target.head? = some '/' || target = ['.'] || target = ['.', '.'] ||
    (octets "./").isPrefixOf target || (octets "../").isPrefixOf target
  let places := if straight || target = [] then [] else ((shell.value "CDPATH").getD []).splitOn ':'
  for place in places do
    if place ≠ [] then
      if ← enter physical (place ++ '/' :: target) then
        return (← put 0 ((← get).place ++ ['\n']))
  if ← enter physical (if target = [] then ['.'] else target) then
    if shows then put 0 ((← get).place ++ ['\n']) else return 0
  else failing (target ++ octets (": " ++ refusal (← tree) target))

/-- Goes to another directory. -/
def cd (arguments : List Octets) : Act Nat := do
  match ← options "LPe" "" arguments with
  | none => return 2
  | some (read, names) =>
    let letters := (read.map (·.1)).filter (· ≠ 'e')
    let shell ← get
    let physical : Bool := match letters.getLast? with
      | some letter => letter = 'P'
      | none => shell.options.contains 'P'
    match names with
    | _ :: _ :: _ => failing (octets "too many arguments")
    | [] => match shell.value "HOME" with
      | some home => goTo physical false home
      | none => failing (octets "HOME not set")
    | [['-']] => match shell.value "OLDPWD" with
      | some before => goTo physical true before
      | none => failing (octets "OLDPWD not set")
    | [target] => goTo physical false target

/-- Says which directory is at hand. -/
def pwd (arguments : List Octets) : Act Nat := do
  match ← options "LP" "" arguments with
  | none => return 2
  | some (read, _) =>
    let shell ← get
    let physical : Bool := match read.getLast? with
      | some (letter, _) => letter = 'P'
      | none => shell.options.contains 'P'
    if physical then put 0 (((← me).map fun process => pathName process.here).getD [] ++ ['\n'])
    else put 0 (shell.place ++ ['\n'])

/-! ### Directories to go back to -/

/-- A directory as it is shown, with a tilde for the home. -/
def shownPlace (shell : State) (place : Octets) : Octets :=
  match shell.value "HOME" with
  | some (c :: home) =>
    let home := c :: home
    if place = home then ['~']
    else if (home ++ ['/']).isPrefixOf place then '~' :: place.drop home.length else place
  | _ => place

/-- All directories, the one at hand first. -/
def directoryStack (shell : State) : List Octets := shell.place :: shell.extra.directories

/-- Keeps the directories to go back to. -/
def setPlaces (directories : List Octets) : Act Unit :=
  modify fun shell => { shell with extra := { shell.extra with directories } }

/-- Shows all directories in a line. -/
def showPlaces : Act Nat := do
  let shell ← get
  put 0 (joinedBy [' '] ((directoryStack shell).map (shownPlace shell)) ++ ['\n'])

/-- The number among the directories that an argument with a sign stands for; none behind a complaint. -/
def placeNumber (argument : Octets) : Act (Option Nat) := do
  let count := (directoryStack (← get)).length
  match count? (argument.drop 1) with
  | none =>
    complain (argument ++ octets ": invalid number")
    let _ ← misused
    return none
  | some number =>
    if count ≤ number then
      complain (if count = 1 then octets "directory stack empty"
        else argument ++ octets ": directory stack index out of range")
      return none
    else return some (if argument.head? = some '+' then number else count - 1 - number)

/-- Whether an argument is a number behind a sign. -/
def isPlaceNumber (argument : Octets) : Bool :=
  argument.head? = some '+' || (argument.head? = some '-' && argument ≠ ['-'])

/-- Goes to a directory, and keeps those to go back to from there if that can be done. -/
def moveTo (target : Octets) (directories : List Octets) : Act Nat := do
  let status ← goTo false false target
  if status = 0 then
    setPlaces directories
    showPlaces
  else return status

/-- Goes to a directory and keeps the one at hand, or takes another order of all of them. -/
def pushd (arguments : List Octets) : Act Nat := do
  let stays : Bool := arguments.head? = some ['-', 'n']
  let words := if stays then arguments.drop 1 else arguments
  let words := if words.head? = some ['-', '-'] then words.drop 1 else words
  let shell ← get
  match words with
  | _ :: _ :: _ => failing (octets "too many arguments")
  | [] => match shell.extra.directories with
    | [] => failing (octets "no other directory")
    | first :: rest => if stays then return 0 else moveTo first (shell.place :: rest)
  | [word] =>
    if isPlaceNumber word then
      match ← placeNumber word with
      | none => return 1
      | some number =>
        let places := directoryStack shell
        let turned := places.drop number ++ places.take number
        moveTo (turned.headD []) (turned.drop 1)
    else if stays then
      setPlaces (word :: shell.extra.directories)
      showPlaces
    else moveTo word (shell.place :: shell.extra.directories)

/-- Goes back to a directory, or forgets one. -/
def popd (arguments : List Octets) : Act Nat := do
  let stays : Bool := arguments.head? = some ['-', 'n']
  let words := if stays then arguments.drop 1 else arguments
  let words := if words.head? = some ['-', '-'] then words.drop 1 else words
  let shell ← get
  match words with
  | word :: _ =>
    if !isPlaceNumber word then
      complain (word ++ octets ": invalid argument")
      misused
    else if shell.extra.directories = [] then failing (octets "directory stack empty")
    else match ← placeNumber word with
      | none => return 1
      | some 0 => moveTo (shell.extra.directories.headD []) (shell.extra.directories.drop 1)
      | some number =>
        setPlaces (shell.extra.directories.eraseIdx (number - 1))
        showPlaces
  | [] => match shell.extra.directories with
    | [] => failing (octets "directory stack empty")
    | first :: rest =>
      if stays then
        setPlaces rest
        showPlaces
      else moveTo first rest

/-- Shows the directories to go back to. -/
def dirs (arguments : List Octets) : Act Nat := do
  let shell ← get
  let letters := (arguments.filter fun word => word.head? = some '-' && !(word.drop 1).all Char.isDigit).flatMap
    (·.drop 1)
  let numbers := arguments.filter fun word => isPlaceNumber word && (word.drop 1).all Char.isDigit
  match arguments.find? (fun word => !isPlaceNumber word), letters.find? (fun c => !"clpv".toList.contains c) with
  | some word, _ =>
    complain (word ++ octets ": invalid argument")
    misused
  | none, some _ =>
    let word := (arguments.find? fun word => word.any fun c => c ≠ '-' && !"clpv".toList.contains c).getD []
    complain (word ++ octets ": invalid number")
    misused
  | none, none =>
    if letters.contains 'c' then
      setPlaces []
      return 0
    else
      let shown (place : Octets) : Octets := if letters.contains 'l' then place else shownPlace shell place
      let places := directoryStack shell
      match numbers.getLast? with
      | some word => match ← placeNumber word with
        | none => return 1
        | some number => put 0 (shown ((places[number]?).getD []) ++ ['\n'])
      | none =>
        if letters.contains 'v' then
          put 0 (places.zipIdx.flatMap fun (place, index) =>
            rightIn 2 (decimal index) ++ [' ', ' '] ++ shown place ++ ['\n'])
        else if letters.contains 'p' then put 0 (places.flatMap fun place => shown place ++ ['\n'])
        else put 0 (joinedBy [' '] (places.map shown) ++ ['\n'])

/-! ### Permissions of new files -/

/-- The permissions that letters change others to, or the words for what is wrong with them. -/
def symbolicMode : Nat → Nat → Octets → Except Octets Nat
  | 0, mode, _ => .ok mode
  | fuel + 1, mode, text =>
    let back := Char.ofNat 96
    let who := text.takeWhile fun c => ['a', 'g', 'o', 'u'].contains c
    let users := if who = [] || who.contains 'a' then 0o777
      else (if who.contains 'u' then 0o700 else 0) ||| (if who.contains 'g' then 0o070 else 0) |||
        (if who.contains 'o' then 0o007 else 0)
    match text.drop who.length with
    | [] => .error (back :: '\x00' :: octets "': invalid symbolic mode operator")
    | sign :: rest =>
      if sign ≠ '+' && sign ≠ '-' && sign ≠ '=' then
        .error (back :: sign :: octets "': invalid symbolic mode operator")
      else
        let what := rest.takeWhile fun c => ['r', 'w', 'x'].contains c
        let bits := users &&& ((if what.contains 'r' then 0o444 else 0) |||
          (if what.contains 'w' then 0o222 else 0) ||| (if what.contains 'x' then 0o111 else 0))
        let mode := if sign = '+' then mode ||| bits
          else if sign = '-' then mode &&& (0o777 ^^^ bits)
          else (mode &&& (0o777 ^^^ users)) ||| bits
        match rest.drop what.length with
        | [] => .ok mode
        | ',' :: more => symbolicMode fuel mode more
        | c :: _ => .error (back :: c :: octets "': invalid symbolic mode character")

/-- Shows or changes the permissions that new files do not get. -/
def umask (arguments : List Octets) : Act Nat := do
  match ← options "pS" "" arguments with
  | none => return 2
  | some (read, rest) =>
    let mask := ((← me).map (·.mask)).getD 0
    let shown (mask : Nat) : Octets := symbolic (0o777 &&& (0o777 ^^^ mask)) ++ ['\n']
    let keep (mask : Nat) : Act Nat := do
      modifyMe fun process => { process with mask := mask &&& 0o777 }
      if has read 'S' then put 0 (shown mask) else return 0
    match rest with
    | [] =>
      let digits := Nat.toDigits 8 mask
      let front := if has read 'p' then octets (if has read 'S' then "umask -S " else "umask ") else []
      if has read 'S' then put 0 (front ++ shown mask)
      else put 0 (front ++ List.replicate (4 - digits.length) '0' ++ digits ++ ['\n'])
    | text :: _ =>
      if text.head?.any Char.isDigit then
        match octal? text with
        | some value => if 0o777 < value then failing (text ++ octets ": octal number out of range") else keep value
        | none => failing (text ++ octets ": octal number out of range")
      else match symbolicMode (text.length + 1) (0o777 &&& (0o777 ^^^ mask)) text with
        | .ok mode => keep (0o777 &&& (0o777 ^^^ mode))
        | .error words => failing words

/-! ### Limits -/

/-- A limit that can be asked for; one without a resource is always the same. -/
structure LimitName where
  letter : Char
  name : String
  unit : String
  resource : Option Resource
  /-- The size of a unit. -/
  factor : Nat := 1

/-- The limits. -/
def limitNames : List LimitName :=
  [⟨'R', "real-time non-blocking time", "microseconds", some .realTime, 1⟩,
    ⟨'c', "core file size", "blocks", some .coreSize, 1024⟩,
    ⟨'d', "data seg size", "kbytes", some .dataSize, 1024⟩, ⟨'e', "scheduling priority", "", some .niceness, 1⟩,
    ⟨'f', "file size", "blocks", some .fileSize, 1024⟩, ⟨'i', "pending signals", "", some .pendingSignals, 1⟩,
    ⟨'l', "max locked memory", "kbytes", some .lockedSize, 1024⟩,
    ⟨'m', "max memory size", "kbytes", some .residentSize, 1024⟩, ⟨'n', "open files", "", some .openFiles, 1⟩,
    ⟨'p', "pipe size", "512 bytes", none, 1⟩, ⟨'q', "POSIX message queues", "bytes", some .messageQueues, 1⟩,
    ⟨'r', "real-time priority", "", some .priority, 1⟩, ⟨'s', "stack size", "kbytes", some .stackSize, 1024⟩,
    ⟨'t', "cpu time", "seconds", some .time, 1⟩, ⟨'u', "max user processes", "", some .processes, 1⟩,
    ⟨'v', "virtual memory", "kbytes", some .addressSpace, 1024⟩, ⟨'x', "file locks", "", some .locks, 1⟩]

/-- The limit with a letter. -/
def limitWith? (letter : Char) : Option LimitName := limitNames.find? (·.letter = letter)

/-- The value of a limit in its units. -/
def LimitName.value (name : LimitName) (hard : Bool) : Act Octets := do
  match name.resource with
  | none => return ['8']
  | some resource =>
    let limit := ((← me).map fun process => process.limit resource).getD {}
    return match if hard then limit.hard else limit.soft with
      | none => octets "unlimited"
      | some value => decimal (value / name.factor)

/-- A line about a limit. -/
def LimitName.line (name : LimitName) (hard : Bool) : Act Octets := do
  let mark := String.singleton name.letter
  let note := if name.unit = "" then s!"(-{mark}) " else s!"({name.unit}, -{mark}) "
  return leftIn 20 (octets name.name) ++ ' ' :: rightIn 20 (octets note) ++ (← name.value hard) ++ ['\n']

/-- Reads which limits are asked for, each perhaps with a value; none behind a complaint. -/
def limitDemands : Nat → List Octets → List (Char × Option Octets) →
    Act (Option (List (Char × Option Octets) × List Octets))
  | 0, rest, read => return some (read.reverse, rest)
  | fuel + 1, ('-' :: c :: more) :: rest, read => do
    if c = '-' && more = [] then return some (read.reverse, rest)
    else if ['S', 'H', 'a'].contains c then
      limitDemands fuel (if more = [] then rest else ('-' :: more) :: rest) ((c, none) :: read)
    else if (limitWith? c).isNone then
      complain (['-', c] ++ octets ": invalid option")
      let _ ← misused
      return none
    else match more, rest with
      | [], value :: behind =>
        if value.head? = some '-' then limitDemands fuel rest ((c, none) :: read)
        else limitDemands fuel behind ((c, some value) :: read)
      | [], [] => limitDemands fuel [] ((c, none) :: read)
      | value, rest => limitDemands fuel rest ((c, some value) :: read)
  | _, rest, read => return some (read.reverse, rest)

/-- Sets a limit; `false` behind a complaint. -/
def LimitName.set (name : LimitName) (soft hard : Bool) (text : Octets) : Act Bool := do
  let refused (words : Octets) : Act Bool := do
    complain words
    return false
  let keep (value : Option Nat) : Act Bool := do
    match name.resource with
    | none => refused (octets (name.name ++ ": cannot modify limit: Invalid argument"))
    | some resource => match ← setLimit resource soft hard value with
      | .ok () => return true
      | .error fault => refused (octets s!"{name.name}: cannot modify limit: {fault.description.1}")
  let limit := match name.resource, ← me with
    | some resource, some process => process.limit resource
    | _, _ => {}
  if text = octets "unlimited" then keep none
  else if text = octets "hard" then keep limit.hard
  else if text = octets "soft" then keep limit.soft
  else if !isDigits text then
    let kind := match text with
      | '0' :: 'x' :: _ => "hex "
      | '0' :: c :: _ => if c.isDigit then "octal " else ""
      | _ => ""
    refused (text ++ octets s!": invalid {kind}number")
  else
    let value := valueIn 10 text * name.factor
    if Nat.pow 2 64 ≤ value then refused (text ++ octets ": limit out of range") else keep (some value)

/-- Shows or sets limits. -/
def ulimit (arguments : List Octets) : Act Nat := do
  match ← limitDemands (2 * arguments.flatten.length + 2) arguments [] with
  | none => return 2
  | some (read, rest) =>
    let asked (letter : Char) : Bool := read.any (·.1 = letter)
    let hard : Bool := asked 'H' && !asked 'S'
    let wanted := read.filterMap fun (letter, value) => (limitWith? letter).map (·, value)
    let wanted := if wanted.isEmpty then ((limitWith? 'f').map fun name => (name, rest.head?)).toList else wanted
    if asked 'a' then put 0 (← limitNames.mapM fun name => name.line hard).flatten
    else
      for (name, value) in wanted do
        match value with
        | none =>
          let text ← if wanted.length = 1 then name.value hard else name.line hard
          let _ ← put 0 (if wanted.length = 1 then text ++ ['\n'] else text)
        | some text =>
          let done ← name.set (asked 'S' || !asked 'H') (asked 'H' || !asked 'S') text
          if !done then return 1
      return 0

end Workyard.Shell.Extended.Builtin
