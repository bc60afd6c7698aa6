/-
**Builtins that read.**

* `read`: a line, or a number of characters, into variables;
* `mapLines`: lines into a list.
-/

import Workyard.Shell.Builtin.Variables
import Workyard.Shell.Extended.Builtin.Basic

namespace Workyard.Shell.Extended.Builtin

/-- How something is read. -/
structure Reading where
  descriptor : Nat := 0
  /-- Whether a backslash is like other characters. -/
  raw : Bool := false
  /-- What ends it, unless nothing does. -/
  delimiter : Option Char := some '\n'
  /-- The most characters that are read. -/
  limit : Option Nat := none
  /-- The time at which no more is read. -/
  deadline : Option Nat := none

/-- How reading came to its end. -/
inductive Stop where
  | delimited
  | full
  | exhausted
  | late
deriving DecidableEq, Repr

/-- Whether something can be read at once, or never. -/
def World.isReady (world : World) (handle : Option Handle) : Bool :=
  match handle with
  | some (.pipe index _ _) =>
    (world.pipes.lookup index).any (fun pipe => decide (0 < pipe.size)) || !world.isFed index
  | _ => true

/-- Waits for something to read up to a time; `false` if nothing comes. -/
def awaitInput (reading : Reading) : Act Bool := do
  match reading.deadline with
  | none => return true
  | some time =>
    let handle ← handle? reading.descriptor
    if !World.isReady (← world) handle then
      suspend { time := some time, ready := fun world => World.isReady world handle }
    return World.isReady (← world) handle

/-- Reads octets one by one, behind what comes in reverse. -/
def readOctets (reading : Reading) : Nat → List Octets → Nat → Act (Octets × Stop)
  | 0, read, _ => return (read.reverse.flatten, .exhausted)
  | fuel + 1, read, count => do
    let ending (stop : Stop) : Act (Octets × Stop) := return (read.reverse.flatten, stop)
    if reading.limit.any (· ≤ count) then ending .full
    else if !(← awaitInput reading) then ending .late
    else
      -- A line is read at once where nothing is lost by it.
      let whole : Bool := reading.delimiter = some '\n' && reading.limit.isNone
      match ← readPiece reading.descriptor (if whole then readRoom else 1) true with
      | .error _ => ending .exhausted
      | .ok [] => ending .exhausted
      | .ok piece =>
        if reading.delimiter.isSome && piece.getLast? = reading.delimiter then
          return ((piece.dropLast :: read).reverse.flatten, .delimited)
        else readOctets reading fuel (piece :: read) (count + piece.length)

/-- Characters of which a backslash keeps those that are marked; `true` if a backslash is the last. -/
def marked : Octets → List (Char × Bool) × Bool
  | [] => ([], false)
  | ['\\'] => ([], true)
  | '\\' :: c :: rest => ((c, true) :: (marked rest).1, (marked rest).2)
  | c :: rest => ((c, false) :: (marked rest).1, (marked rest).2)

/-- Reads characters, in which a backslash keeps what follows it and joins lines. -/
def readMarked (reading : Reading) : Nat → List (Char × Bool) → Act (List (Char × Bool) × Stop)
  | 0, read => return (read, .exhausted)
  | fuel + 1, read => do
    let reading := { reading with limit := reading.limit.map (· - read.length) }
    let (text, stop) ← readOctets reading maxPieces [] 0
    let text := text.filter (· ≠ '\x00')
    if reading.raw then return (read ++ text.map (·, false), stop)
    else
      let (more, joins) := marked text
      let more := more.filter fun c => !(c.2 && c.1 = '\n')
      if joins && stop = .delimited then
        let kept := match reading.delimiter with
          | some c => if c = '\n' then [] else [(c, true)]
          | none => []
        readMarked reading fuel (read ++ more ++ kept)
      else if (joins || text.length ≠ more.length) && stop = .full then
        -- What a backslash keeps counts as one.
        let back : Nat := if joins then 1 else 0
        let (behind, stop) ← readOctets { reading with limit := some (text.length - more.length) } maxPieces [] 0
        let behind := if back = 1 then behind.take 1 |>.map (·, true) else []
        return (read ++ more ++ behind, stop)
      else return (read ++ more, stop)

/-- The microseconds of a time that is given in seconds; none if it is not one. -/
def duration? (text : Octets) : Option Nat :=
  let whole := text.takeWhile Char.isDigit
  let part := (text.drop (whole.length + 1)).take 6
  match text.drop whole.length with
  | [] => if whole = [] then none else some (valueIn 10 whole * 1000000)
  | '.' :: digits =>
    if digits.all Char.isDigit && (whole ≠ [] || digits ≠ []) then
      some (valueIn 10 whole * 1000000 + valueIn 10 part * Nat.pow 10 (6 - part.length))
    else none
  | _ => none

/-- The fields of what was read. -/
def fieldsOf (separators : Octets) (text : List (Char × Bool)) : List Octets :=
  (Cutting.run separators (text.map fun (c, kept) => .letter (if kept then .quoted else .value) c)).map Field.text

/-- Gives variables their values, up to one that cannot have it. -/
def storeAll : List (Octets × Octets) → Act Bool
  | [] => return true
  | (name, text) :: rest => do
    if ← store name text then storeAll rest else return false

/-- The descriptor that an argument names; none behind a complaint. -/
def descriptorOf (text : Option Octets) : Act (Option Nat) := do
  match text with
  | none => return some 0
  | some text => match count? text with
    | none =>
      complain (text ++ octets ": invalid file descriptor specification")
      return none
    | some number =>
      if (← handle? number).isNone then
        complain (text ++ octets ": invalid file descriptor: Bad file descriptor")
        return none
      else return some number

/-- Reads into variables. -/
def read (arguments : List Octets) : Act Nat := do
  match ← options "ers" "adinptuN" arguments with
  | none => return 2
  | some (read, names) =>
    let exact := lastOf read 'N'
    let limit := exact.or (lastOf read 'n')
    let time := (lastOf read 't').map fun text => (text, duration? text)
    match time, limit.map fun text => (text, count? text), names with
    | some (text, none), _, _ => failing (text ++ octets ": invalid timeout specification")
    | _, some (text, none), _ => failing (text ++ octets ": invalid number")
    | _, _, names =>
      match ← descriptorOf (lastOf read 'u') with
      | none => return 1
      | some descriptor =>
        let list := lastOf read 'a'
        let wrong := (list.toList ++ names.take 1).find? fun name => (reference? name).isNone
        match wrong with
        | some name => wrongName name
        | none =>
          let span := time.bind (·.2)
          if span = some 0 then
            return if World.isReady (← world) (← handle? descriptor) then 0 else 1
          let delimiter : Option Char := if exact.isSome then none else match lastOf read 'd' with
            | none => some '\n'
            | some [] => some '\x00'
            | some (c :: _) => some c
          let now := (← world).clock
          let reading : Reading :=
            { descriptor, raw := has read 'r', delimiter, limit := limit.bind count?
              deadline := span.map (now + ·) }
          let (text, stop) ← readMarked reading 100000 []
          let plain := text.map (·.1)
          let separators := (← get).separators
          let kept ← match list, names with
            | some name, _ => do
              let variableName := spelled name
              if !(← mayKeep false variableName) then pure false
              else
                assignList variableName false ((fieldsOf separators text).map (none, false, ·))
                pure true
            | none, [] => store (octets "REPLY") plain
            | none, names =>
              if exact.isSome then storeAll ((names.zip [plain]) ++ (names.drop 1).map (·, []))
              else storeAll ((Shell.Builtin.distribute separators (names.map spelled) text).map fun entry =>
                (octets entry.1, entry.2))
          return if stop = .late then 142 else if !kept then 1
            else if stop = .exhausted then 1 else 0

/-- Reads lines into a list. -/
def mapLines (services : Services) (arguments : List Octets) : Act Nat := do
  match ← options "t" "duncCOs" arguments with
  | none => return 2
  | some (read, names) =>
    let number (letter : Char) (first : Nat) (words : String) : Act (Option Nat) := do
      match lastOf read letter with
      | none => return some first
      | some text => match count? text with
        | some count => return some count
        | none =>
          complain (text ++ octets s!": {words}")
          return none
    match ← number 'n' 0 "invalid line count", ← number 's' 0 "invalid line count",
        ← number 'O' 0 "invalid array origin", ← number 'c' 5000 "invalid callback quantum",
        ← descriptorOf (lastOf read 'u') with
    | some most, some skipped, some origin, some quantum, some descriptor =>
      let name := names.headD (octets "MAPFILE")
      if !isName name then wrongName name
      else if !(← mayKeep false (spelled name)) then return 1
      else
        let text := spelled name
        let delimiter := match lastOf read 'd' with
          | none => '\n'
          | some [] => '\x00'
          | some (c :: _) => c
        let reading : Reading := { descriptor, raw := true, delimiter := some delimiter }
        if !has read 'O' then
          putVariable text (some { Variable.ofRow [] with marks := ['='] })
        lines services reading text (has read 't') (lastOf read 'C') quantum delimiter
          (if most = 0 then none else some most) maxPieces skipped origin 0
        return 0
    | _, _, _, _, _ => return 1
where
  /-- Reads lines on, of which some are skipped. -/
  lines (services : Services) (reading : Reading) (name : String) (strips : Bool) (callback : Option Octets)
      (quantum : Nat) (delimiter : Char) (most : Option Nat) : Nat → Nat → Nat → Nat → Act Unit
    | 0, _, _, _ => return
    | fuel + 1, skipped, index, count => do
      if skipped = 0 && most = some count then return
      else
        let (text, stop) ← readOctets reading maxPieces [] 0
        if stop ≠ .delimited && text = [] then return
        else if skipped ≠ 0 then
          lines services reading name strips callback quantum delimiter most fuel (skipped - 1) index count
        else
          let line := if stop = .delimited && !strips then text ++ [delimiter] else text
          if let some command := callback then
            if (count + 1) % quantum = 0 then
              let _ ← services.script (command ++ octets s!" {index} " ++ quotedAlways line)
          assignMember name (decimal index) line
          lines services reading name strips callback quantum delimiter most fuel 0 (index + 1) (count + 1)

end Workyard.Shell.Extended.Builtin
