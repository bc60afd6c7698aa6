/-
**Builtins for the directory at hand and for new files.**
-/

import Workyard.Shell.Builtin.Basic
import Workyard.Shell.Permission

namespace Workyard.Shell.Builtin

/-- The name of a path. -/
def pathName (path : Files.Path) : Octets := octets ("/" ++ "/".intercalate path)

/-- A name with its parts `.` and `..` taken away, which goes on from a directory. -/
def straightened (place name : Octets) : Octets :=
  let parts := (Files.parts name).filter fun part => part ≠ [] && part ≠ ['.']
  let start := if name.head? = some '/' then [] else (Files.parts place).filter (· ≠ [])
  let path := parts.foldl (fun path part => if part = ['.', '.'] then path.dropLast else path ++ [part]) start
  let root : Octets :=
    if name.head? = some '/' then (if name.take 2 = ['/', '/'] && name.take 3 ≠ ['/', '/', '/'] then ['/', '/'] else ['/'])
    else if place.take 2 = ['/', '/'] then ['/', '/'] else ['/']
  root ++ joinedBy ['/'] path

/-- Goes to a directory that is there; `false` if it is not. -/
def enter (physical : Bool) (name : Octets) : Act Bool := do
  let shell ← get
  let place := straightened shell.place name
  -- A name whose parts cannot be walked one by one is taken as it is.
  let tree ← tree
  match tree.find (spelled (if physical then name else place)),
      tree.locate (spelled (if physical then name else place)) with
  | .ok ⟨.directory, _, _⟩, .ok location =>
    let before := shell.place
    let after := if physical then pathName location.path else place
    modifyMe fun process => { process with here := location.path }
    modify fun shell => { shell with place := after }
    let exported (name : String) : Act Unit := do
      if let some held := (← get).held name then
        putVariable name (some { held with exported := true })
    assign "OLDPWD" before
    exported "OLDPWD"
    assign "PWD" after
    exported "PWD"
    return true
  | _, _ => return false

/-- Goes to another directory. -/
def cd (arguments : List Octets) : Act Nat := do
  let (options, names) ← options "LP" "" arguments
  let physical : Bool := (options.head?.map (·.1)) = some 'P'
  let shell ← get
  let (target, shows) : Octets × Bool := match names with
    | [] => ((shell.value "HOME").getD [], false)
    | ['-'] :: _ => ((shell.value "OLDPWD").getD [], true)
    | target :: _ => (target, false)
  let showing : Act Nat := do put ((← get).place ++ ['\n'])
  let places := if names = [] || target.head? = some '/' || target = ['.'] || target = ['.', '.'] ||
      (octets "./").isPrefixOf target || (octets "../").isPrefixOf target then []
    else ((shell.value "CDPATH").getD []).splitOn ':'
  let target := if target = [] then ['.'] else target
  for place in places do
    if place ≠ [] then
      if ← enter physical (place ++ '/' :: target) then return (← showing)
  if ← enter physical target then return (← if shows then showing else pure 0)
  refuse (octets "can't cd to " ++ (if names = [] || shows then target else names.headD []))

/-- Says which directory is at hand. -/
def pwd (arguments : List Octets) : Act Nat := do
  let (options, _) ← options "LP" "" arguments
  if (options.head?.map (·.1)) = some 'P' then
    put (((← me).map fun process => pathName process.here).getD [] ++ ['\n'])
  else put ((← get).place ++ ['\n'])

/-! ### Permissions of new files -/

/-- Shows or changes the permissions that new files do not get. -/
def umask (arguments : List Octets) : Act Nat := do
  let (options, rest) ← options "S" "" arguments
  let mask := ((← me).map (·.mask)).getD 0
  match rest with
  | [] =>
    if options ≠ [] then put (symbolic (0o777 &&& (0o777 ^^^ mask)) ++ ['\n'])
    else
      let digits := Nat.toDigits 8 mask
      put (List.replicate (4 - digits.length) '0' ++ digits ++ ['\n'])
  | text :: _ =>
    let keep (mask : Nat) : Act Nat := do
      modifyMe fun process => { process with mask := mask &&& 0o777 }
      return 0
    if text.head?.any Char.isDigit then
      match octal? text with
      | some value => keep value
      | none => refuse (octets "Illegal number: " ++ text)
    else
      let bare : Bool := text ≠ [] && text.all fun c => ['u', 'g', 'o', 'a'].contains c
      if bare then return 0
      else match changedMode false 0 (0o777 &&& (0o777 ^^^ mask)) text with
        | some mode => keep (0o777 &&& (0o777 ^^^ (mode &&& 0o777)))
        | none => refuse (octets "Illegal mode: " ++ text)

/-! ### Limits -/

/-- Changes a limit of the process at work. -/
def setLimit (resource : Resource) (soft hard : Bool) (value : Option Nat) : Act (Except OsFault Unit) := do
  let limit := ((← me).map fun process => process.limit resource).getD {}
  match limit.change soft hard value with
  | .error fault => return .error fault
  | .ok limit =>
    modifyMe fun process => { process with
      limits := (resource, limit) :: process.limits.filter (·.1 ≠ resource) }
    return .ok ()

/-- The limits: letters, names, resources and their units. -/
def limitNames : List (Char × String × Resource × Nat) :=
  [('t', "time(seconds)", .time, 1), ('f', "file(blocks)", .fileSize, 512),
    ('d', "data(kbytes)", .dataSize, 1024), ('s', "stack(kbytes)", .stackSize, 1024),
    ('c', "coredump(blocks)", .coreSize, 512), ('m', "memory(kbytes)", .residentSize, 1024),
    ('l', "locked memory(kbytes)", .lockedSize, 1024), ('p', "process", .processes, 1),
    ('n', "nofiles", .openFiles, 1), ('v', "vmemory(kbytes)", .addressSpace, 1024),
    ('w', "locks", .locks, 1), ('r', "rtprio", .priority, 1)]

/-- Shows or sets a limit. -/
def ulimit (arguments : List Octets) : Act Nat := do
  let (options, rest) ← options "HSatfdsmcnvlpwr" "" arguments
  let letters := options.map (·.1)
  let side := (letters.filter fun letter => letter = 'H' || letter = 'S').head?
  let process ← me
  let shown (resource : Resource) (unit : Nat) : Octets :=
    let limit := (process.map fun process => process.limit resource).getD {}
    match if side = some 'H' then limit.hard else limit.soft with
    | none => octets "unlimited"
    | some value => decimal (value / unit)
  let showsAll : Bool := letters.contains 'a'
  if 1 < rest.length || (showsAll && rest ≠ []) then refuse (octets "too many arguments")
  else if showsAll then
    put (limitNames.flatMap fun (_, name, resource, unit) =>
      leftIn 20 (octets name) ++ ' ' :: shown resource unit ++ ['\n'])
  else
    let letter := (letters.filter fun letter => letter ≠ 'H' && letter ≠ 'S').headD 'f'
    let (_, resource, unit) := (limitNames.lookup letter).getD ("", .fileSize, 512)
    match rest with
    | [] => put (shown resource unit ++ ['\n'])
    | text :: _ =>
      let size := Nat.pow 2 64
      let value := valueIn 10 text % size * unit % size
      if text ≠ octets "unlimited" && !isDigits text then refuse (octets "bad number")
      let value := if text = octets "unlimited" || value = size - 1 then none else some value
      match ← setLimit resource (side ≠ some 'H') (side ≠ some 'S') value with
      | .ok () => return 0
      | .error fault => refuse (octets s!"error setting limit ({fault.description.1})")

end Workyard.Shell.Builtin
