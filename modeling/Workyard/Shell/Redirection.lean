/-
**Redirections.**

What the words of a redirection stand for is found first; then descriptors are made to lead to files, to
documents, or to where others lead.

* `redirect`: makes redirections for good;
* `redirected`: makes them for a part of the work.
-/

import Workyard.Shell.Extended.Printing
import Workyard.Shell.Running

namespace Workyard.Shell

/-- The words for a file that cannot be opened. -/
def openWords (extended creating : Bool) (name : Octets) (fault : IoFault) : Octets :=
  let verb := if creating then "create" else "open"
  let missing := if creating then "Directory nonexistent" else "No such file"
  let reason := match fault with
    | .os .notFound => missing
    | .os .notADirectory => missing
    | fault => fault.reason
  if extended then
    name ++ octets (if fault = .os .alreadyExists then ": cannot overwrite existing file" else s!": {fault.reason}")
  else octets s!"cannot {verb} " ++ name ++ octets s!": {reason}"

/-- A redirection with what its words stand for. -/
inductive Target where
  | file (kind : RedirectKind) (name : Octets)
  /-- What another descriptor leads to. -/
  | copy (descriptor : Nat)
  /-- The same, and the other descriptor is closed. -/
  | move (descriptor : Nat)
  | nothing
  | document (number : Nat)
  | text (text : Octets)

/-- The one text that the word of a redirection stands for. -/
def targetText (inner : Inner) (word : Word) : Act Octets := do
  let shell ← get
  if shell.extended then
    match ← arguments (capture inner) [word] with
    | [text] => return text
    | _ => refuse (Extended.wordText word ++ octets ": ambiguous redirect")
  else joined (capture inner) word

/-- What a descriptor is to be the same as. -/
def duplicated (name : Octets) : Option Target :=
  match name with
  | ['-'] => some .nothing
  | name =>
    if isDigits name then some (.copy (valueIn 10 name))
    else if name.getLast? = some '-' && isDigits name.dropLast then some (.move (valueIn 10 name.dropLast))
    else none

/-- What a redirection is to do to descriptors; what is wrong with its words is a fault. -/
def targetsOf (inner : Inner) : Redirect → Act (List (Nat × Target))
  | .document descriptor number => return [(descriptor, .document number)]
  | .text descriptor word => do
    return [(descriptor, .text ((← joined (capture inner) word) ++ ['\n']))]
  | .both appends word => do
    return [(1, .file (if appends then .append else .output) (← targetText inner word)), (2, .copy 1)]
  | .named name kind word => do
    let text ← targetText inner word
    if kind = .duplicate && text = ['-'] then
      return [(valueIn 10 (((← get).value name).getD []), .nothing)]
    else
      let used := (((← me).map (·.descriptors)).getD []).map (·.1)
      let descriptor := ((List.range 1000).map (· + 10)).find? (fun number => !used.contains number) |>.getD 10
      assign name (decimal descriptor)
      return [(descriptor, if kind = .duplicate then (duplicated text).getD .nothing else .file kind text)]
  | .file descriptor kind word => do
    let name ← targetText inner word
    let extended := (← get).extended
    match kind with
    | .duplicate => match duplicated name, name.length, extended with
      | some target, 1, false => return [(descriptor, target)]
      | some target, _, true => return [(descriptor, target)]
      | none, _, true =>
        if descriptor = 1 then return [(1, .file .output name), (2, .copy 1)]
        else refuse (Extended.wordText word ++ octets ": ambiguous redirect")
      | _, _, false => refuse (octets "Syntax error: Bad fd number")
    | kind => return [(descriptor, .file kind name)]

/-- What redirections are to do to their descriptors. -/
def targets (inner : Inner) (redirects : List Redirect) : Act (List (Nat × Target)) := do
  return (← redirects.mapM (targetsOf inner)).flatten

/-- What a descriptor is made to lead to; a complaint about it is a fault. -/
def Target.handle (inner : Inner) (target : Target) : Act (Option Handle) := do
  let extended := (← get).extended
  let opening (how : Opening) (name : Octets) : Act (Option Handle) := do
    match ← openFile how name with
    | .ok handle => return some handle
    | .error fault => refuse (openWords extended how.writes name fault)
  let copied (descriptor : Nat) : Act (Option Handle) := do
    match ← handle? descriptor with
    | some handle => return some handle
    | none => refuse (decimal descriptor ++ octets ": Bad file descriptor")
  match target with
  | .nothing => return none
  | .copy descriptor => copied descriptor
  | .move descriptor =>
    let handle ← copied descriptor
    setHandle descriptor none
    return handle
  | .document number =>
    let text ← joined (capture inner) (((← get).documents.lookup number).getD [])
    return some (← pipeWith text)
  | .text content => return some (← pipeWith content)
  | .file kind name => match kind with
    | .append => opening { writes := true, appends := true } name
    | .readWrite => opening { reads := true, writes := true } name
    | .clobber => opening { writes := true, truncates := true } name
    | .output =>
      let guarded : Bool := (← get).options.contains 'C' && (match (← tree).find (spelled name) with
        | .ok ⟨.file _, _, _⟩ => true
        | _ => false)
      opening { writes := true, truncates := true, creates := guarded } name
    | _ => opening { reads := true } name

/-- Makes redirections. -/
def redirect (inner : Inner) (targets : List (Nat × Target)) : Act Unit := do
  for (descriptor, target) in targets do
    setHandle descriptor (← target.handle inner)

/-- Finds out what redirections are to do, and makes them; in the extended language one after another. -/
def redirectAll (inner : Inner) (redirects : List Redirect) : Act Unit := do
  if (← get).extended then
    for one in redirects do
      redirect inner (← targetsOf inner one)
  else redirect inner (← targets inner redirects)

/-- Does a part of the work with redirections, which is told where complaints went before. -/
def redirected (inner : Inner) (redirects : List Redirect) (failed : Act Nat)
    (part : Option Handle → Act Nat) : Act Nat := do
  if redirects.isEmpty then part (← handle? 2)
  else
    let extended := (← get).extended
    let chosen ← if extended then pure [] else targets inner redirects
    let before := ((← me).map (·.descriptors)).getD []
    let saved := ((← me).map (·.saved)).getD []
    modifyMe fun process => { process with saved := before.map (·.2) ++ process.saved }
    let result ← attempt do
      match ← attempt (if extended then redirectAll inner redirects else redirect inner chosen) with
      | .ok () => part (before.lookup 2)
      | .error .failed => failed
      | .error other => throw other
    -- Descriptors that variables name stay as they are.
    let after := ((← me).map (·.descriptors)).getD []
    let named := if redirects.any isNamed then
        after.filter fun entry => 10 ≤ entry.1 && (before.lookup entry.1).isNone
      else []
    modifyMe fun process => { process with descriptors := named ++ before, saved }
    sweep
    settle result
where
  /-- Whether a redirection is of a descriptor that a variable names. -/
  isNamed : Redirect → Bool
    | .named _ _ _ => true
    | _ => false

end Workyard.Shell
