/-
**Programs that move and copy files.**

What is moved keeps its node and gets another name. A copy is a new node, or the contents of one that is
there already.

* `mv`, `cp`: the programs.
-/

import Workyard.Shell.Program.Removal

namespace Workyard.Shell.Program

/-- How files are moved or copied. -/
structure TransferPlan where
  /-- Whether it is asked before something is written over, or nothing is. -/
  asks : Bool := false
  keeps : Option Bool := none
  tells : Bool := false
  /-- Whether only what is newer is written over something. -/
  newer : Bool := false
  /-- What is put behind the name of what would be written over. -/
  backup : Option Octets := none
  deep : Bool := false
  /-- Whether links are followed, among the arguments and in directories. -/
  follows : Bool := true
  followsInside : Bool := false
  /-- Whether the permissions and the time are kept. -/
  exact : Bool := false
  force : Bool := false
  replaces : Bool := false
  hardLinks : Bool := false
  softLinks : Bool := false

/-- The words for two names. -/
def pairOf (source target : Octets) (between : String) : Octets :=
  asQuotedWord source ++ octets between ++ asQuotedWord target

/-- Whether something that is there is written over; nothing if it is not and that is wrong. -/
def mayCover (call : Call) (plan : TransferPlan) (source target : Files.Node) (name : Octets) : Act (Option Bool) := do
  match plan.keeps with
  | some true => return some false
  | some false =>
    let _ ← scold call.name (octets "not replacing " ++ asQuotedWord name)
    return none
  | none =>
    if plan.newer && source.time ≤ target.time then return some false
    else if plan.asks then
      if ← confirmed call (octets "overwrite " ++ asQuotedWord name) then return some true else return none
    else return some true

/-- Moves what is there out of the way if wanted; gives the name that it has then. -/
def makeBackup (plan : TransferPlan) (target : Spot) : Act Octets := do
  match plan.backup, target.found with
  | some suffix, some _ =>
    let kept := withoutSlashes target.name ++ suffix
    match ← spot kept with
    | .ok place =>
      let tree ← tree
      setTree ((tree.remove place.path).move target.path place.path)
      return octets " (backup: " ++ asQuotedWord kept ++ [')']
    | .error _ => return []
  | _, _ => return []

/-! ### Moving -/

/-- Gives a file another name. -/
def moveOne (call : Call) (plan : TransferPlan) (source target : Octets) : Act Bool := do
  let complain (words : Octets) : Act Bool := do
    let _ ← scold call.name words
    return false
  let cannot (fault : IoFault) : Act Bool :=
    complain (octets "cannot move " ++ pairOf source target " to " ++ octets ": " ++ reason fault)
  match ← spotOf source with
  | .error fault => complain (octets "cannot stat " ++ asQuotedWord source ++ octets ": " ++ reason fault)
  | .ok first => match ← spot target, first.found with
    | .error fault, _ => cannot fault
    | .ok _, none => return false
    | .ok second, some (number, node) =>
      let last := lastPart source
      if last = ['.'] || last = ['.', '.'] || isMounted first.path then cannot (.os .busy)
      else if second.slashed && !first.isDirectory && !second.isDirectory then cannot (.os .notADirectory)
      else
        let move : Act Bool := do
          let note ← makeBackup plan second
          setTree ((← tree).move first.path second.path)
          tell plan.tells (octets "renamed " ++ pairOf source target " -> " ++ note)
          return true
        match second.found with
        | none =>
          if Files.Tree.isWithin first.path second.path then
            complain (octets "cannot move " ++ pairOf source target " to a subdirectory of itself, ")
          else move
        | some (other, covered) =>
          if number = other then complain (pairOf source target " and " ++ octets " are the same file")
          else if plan.keeps.isSome && !first.isDirectory then
            return (← mayCover call plan node covered target).isSome
          else if second.isDirectory && !first.isDirectory then
            complain (octets "cannot overwrite directory " ++ asQuotedWord target ++ octets " with non-directory")
          else if first.isDirectory && !second.isDirectory then
            complain (octets "cannot overwrite non-directory " ++ asQuotedWord target ++
              octets " with directory " ++ asQuotedWord source)
          else
            match ← mayCover call plan node covered target with
            | none => return false
            | some false => return true
            | some true =>
              if Files.Tree.isWithin first.path second.path then
                complain (octets "cannot move " ++ pairOf source target " to a subdirectory of itself, ")
              else if second.isDirectory && plan.backup.isNone && (← namesIn second.path) ≠ [] then
                complain (octets "cannot overwrite " ++ asQuotedWord target ++ octets ": " ++ reason (.os .notEmpty))
              else move

/-! ### Copying -/

/-- The octets that can be read from a file. -/
def octetsOf (name : Octets) (node : Files.Node) : Act (Except IoFault (List UInt8)) := do
  match node.kind with
  | .file content => return .ok content
  | _ =>
    match ← openFile { reads := true } name with
    | .error fault => return .error fault
    | .ok handle =>
      setHandle inputDescriptor (some handle)
      let (text, fault) ← readAll inputDescriptor
      setHandle inputDescriptor none
      sweep
      return match fault with
        | some fault => .error fault
        | none => .ok (numbers text)

/-- Copies what has a name, and if wanted all in it. `origin` has the names of the arguments at work and the
number of the directory that was made for the first. -/
def copyEntry (call : Call) (plan : TransferPlan) : Nat → Bool → Option (Octets × Octets × Nat) → Octets → Octets →
    Act Bool
  | 0, _, _, _, _ => return false
  | fuel + 1, top, origin, source, target => do
    let complain (words : Octets) : Act Bool := do
      let _ ← scold call.name words
      return false
    let follow : Bool := if top then plan.follows else plan.followsInside
    match ← spotOf source follow with
    | .error fault => complain (octets "cannot stat " ++ asQuotedWord source ++ octets ": " ++ reason fault)
    | .ok first => match first.found with
      | none => return false
      | some (number, node) =>
        if first.isDirectory && !plan.deep then
          complain (octets "-r not specified; omitting directory " ++ asQuotedWord source)
        else if origin.any fun origin => origin.2.2 = number then
          let (one, other, _) := origin.getD ([], [], 0)
          complain (octets "cannot copy a directory, " ++ pairOf one other ", into itself, ")
        else
          let regular : Bool := match node.kind with
            | .file _ => true
            | _ => !plan.deep
          let cannot (words : String) (fault : IoFault) : Act Bool :=
            complain (octets words ++ asQuotedWord target ++ octets ": " ++ reason fault)
          let words := if first.isDirectory then "cannot create directory " else if first.isLink then
            "cannot create symbolic link " else if regular then "cannot create regular file " else
            "cannot create fifo "
          match ← spot target with
          | .error fault => cannot words fault
          | .ok bare =>
            let second ← if bare.isLink && regular && !plan.replaces then (do
                match ← spot target true with
                | .ok found => pure found
                | .error _ => pure bare) else pure bare
            let same : Bool := second.found.any fun entry => entry.1 = number
            let keepExact (made : Nat) : Act Unit := changeNode made fun other =>
              if plan.exact then { other with mode := node.mode, time := node.time } else other
            if second.slashed && !first.isDirectory && !second.isDirectory then
              cannot words (.os .notADirectory)
            else if same && !(plan.hardLinks) && !first.isDirectory then
              complain (pairOf source target " and " ++ octets " are the same file")
            else if !first.isDirectory && second.isDirectory then
              complain (octets "cannot overwrite directory " ++ asQuotedWord target ++ octets " with non-directory")
            else if first.isDirectory && second.found.isSome && !second.isDirectory then
              complain (octets "cannot overwrite non-directory " ++ asQuotedWord target ++
                octets " with directory " ++ asQuotedWord source)
            else
              let allowed ← match second.found with
                | some (_, covered) =>
                  if first.isDirectory then pure (some true) else mayCover call plan node covered target
                | none => pure (some true)
              match allowed with
              | none => return false
              | some false => return true
              | some true =>
                let saying (note : Octets) : Act Unit := tell plan.tells (pairOf source target " -> " ++ note)
                if first.isDirectory then
                  let made : Except IoFault (Option Nat) ← if second.found.isSome then pure (.ok none)
                    else do
                      match ← addNode target .directory node.mode with
                      | .ok number => pure (.ok (some number))
                      | .error fault => pure (.error fault)
                  match made with
                  | .error fault => cannot words fault
                  | .ok made =>
                    if made.isSome then saying []
                    let number := made.getD ((second.found.map (·.1)).getD 0)
                    let origin := origin.or (some (source, target, number))
                    let mut all := true
                    for child in ← namesIn first.path do
                      if !(← copyEntry call plan fuel false origin (inside source child) (inside target child)) then
                        all := false
                    keepExact number
                    return all
                else
                  let note ← makeBackup plan second
                  let before ← spot target
                  let occupied : Bool := match before with
                    | .ok found => found.found.isSome
                    | .error _ => false
                  let added (made : Except IoFault Nat) : Act Bool := do
                    match made with
                    | .ok number =>
                      saying note
                      keepExact number
                      return true
                    | .error fault => cannot words fault
                  if plan.hardLinks || plan.softLinks then
                    if occupied && (plan.force || plan.replaces) then
                      let _ ← removeName target false
                    if plan.hardLinks && same then return true
                    else if plan.hardLinks then
                      match ← addName target number with
                      | .ok () =>
                        saying note
                        return true
                      | .error fault => complain (octets "cannot create hard link " ++
                          pairOf target source " to " ++ octets ": " ++ reason fault)
                    else
                      match ← addNode target (.link (spelled source)) 0o777 with
                      | .ok _ =>
                        saying note
                        return true
                      | .error fault => complain (octets "cannot create symbolic link " ++
                          pairOf target source " to " ++ octets ": " ++ reason fault)
                  else if first.isLink || !regular then
                    if occupied then
                      let _ ← removeName target false
                    added (← addNode target node.kind node.mode)
                  else
                    if occupied && plan.replaces then
                      let _ ← removeName target false
                    match ← octetsOf source node with
                    | .error fault =>
                      complain (octets "cannot open " ++ asQuotedWord source ++ octets " for reading: " ++ reason fault)
                    | .ok content =>
                      let dangling : Bool := bare.isLink && second.found.isNone && !plan.replaces
                      if dangling then
                        complain (octets "not writing through dangling symlink " ++ asQuotedWord target)
                      else
                        let covered := if note = [] && !plan.replaces then second.found else none
                        match covered with
                        | some (number, ⟨.file _, _, _⟩) =>
                          saying note
                          setTree ((← tree).replace number content)
                          keepExact number
                          return true
                        | some _ =>
                          saying note
                          match ← openFile { writes := true } target with
                          | .error fault => cannot "cannot create regular file " fault
                          | .ok handle =>
                            setHandle inputDescriptor (some handle)
                            let _ ← writeAll inputDescriptor (ofNumbers content)
                            setHandle inputDescriptor none
                            sweep
                            return true
                        | none => added (← addNode target (.file content) (node.mode &&& 0o777))

/-! ### The programs -/

/-- Moves or copies arguments to the last of them, or into it if it is a directory. -/
def transfer (call : Call) (options : Options) (work : Octets → Octets → Act Bool) : Act Nat := do
  let bare (name : Octets) : Octets :=
    if options.has "strip-trailing-slashes" then withoutSlashes name else name
  let into (place : Octets) (sources : List Octets) : Act Nat := do
    let mut status := 0
    for source in sources do
      let last := lastPart source
      let target := if options.has "parents" then inside place (source.dropWhile (· = '/'))
        else if last = ['.', '.'] then place else inside place last
      if !(← work (bare source) target) then status := 1
    return status
  let noPlace (words : String) (place : Octets) : Act Nat := do
    let fault : IoFault := match (← tree).find (spelled place) with
      | .error fault => fault
      | .ok _ => .os .notADirectory
    scold call.name (octets words ++ asQuotedWord place ++ octets ": " ++ reason fault)
  match options.last? "t", options.rest with
  | _, [] => misused call.name (octets "missing file operand")
  | some place, sources =>
    if options.has "T" then
      misused call.name (octets "cannot combine --target-directory (-t) and --no-target-directory (-T)")
    else if ← isDirectoryName place then into place sources else noPlace "target directory " place
  | none, [source] =>
    misused call.name (octets "missing destination file operand after " ++ asQuotedWord source)
  | none, words =>
    let place := words.getLast?.getD []
    let sources := words.dropLast
    if options.has "T" then
      match sources with
      | [source] => return if ← work (bare source) place then 0 else 1
      | _ => misused call.name (octets "extra operand " ++ asQuotedWord (words.getD 2 []))
    else if ← isDirectoryName place then into place sources
    else match sources with
      | [source] =>
        if options.has "parents" then noPlace "with --parents, the destination must be a directory: " place
        else return if ← work (bare source) place then 0 else 1
      | _ => noPlace "target " place

/-- The options that moving and copying have in common. -/
def transferChoices : List Choice :=
  [("b", "", .nothing), ("", "backup", .perhaps), ("f", "force", .nothing), ("i", "interactive", .nothing),
    ("n", "no-clobber", .nothing), ("", "strip-trailing-slashes", .nothing), ("S", "suffix", .value),
    ("t", "target-directory", .value), ("T", "no-target-directory", .nothing), ("u", "", .nothing),
    ("", "update", .perhaps), ("v", "verbose", .nothing), ("Z", "context", .perhaps), ("", "debug", .nothing)]

/-- How options want files to be moved or copied; `quiet` says whether what is not written over is passed
over in silence. -/
def transferPlan (options : Options) (quiet : Bool) : TransferPlan :=
  let last := options.lastOf? ["f", "i", "n"]
  let update := options.last? "update"
  { asks := last = some "i"
    keeps := if last = some "n" then some quiet else if update = some (octets "none") then some true else none
    tells := options.has "v" || options.has "debug"
    newer := options.has "u" || update = some [] || update = some (octets "older")
    backup := if options.has "b" || options.has "backup" || options.has "S" then
        some ((options.last? "S").getD ['~']) else none
    force := last = some "f" }

/-- Moves files. -/
def mv (call : Call) : Act Nat :=
  withOptions (("", "no-copy", .nothing) :: transferChoices) true 1 call fun options =>
    transfer call options (moveOne call (transferPlan options false))

/-- Copies files. -/
def cp (call : Call) : Act Nat :=
  let known : List Choice := transferChoices ++
    [("a", "archive", .nothing), ("", "attributes-only", .nothing), ("", "copy-contents", .nothing),
      ("d", "", .nothing), ("H", "", .nothing), ("l", "link", .nothing), ("L", "dereference", .nothing),
      ("P", "no-dereference", .nothing), ("p", "", .nothing), ("", "preserve", .perhaps),
      ("", "no-preserve", .value), ("", "parents", .nothing), ("R", "recursive", .nothing), ("r", "", .nothing),
      ("", "reflink", .perhaps), ("", "remove-destination", .nothing), ("", "sparse", .value),
      ("s", "symbolic-link", .nothing), ("x", "one-file-system", .nothing)]
  withOptions known true 1 call fun options => do
    if options.has "n" then
      let _ ← scold call.name (octets "warning: behavior of -n is non-portable and may change in future; use --update=none instead")
    let deep : Bool := options.has "r" || options.has "R" || options.has "a"
    let link := options.lastOf? ["L", "P", "H", "d", "a"]
    let follows : Bool := match link with
      | some "L" => true
      | some "H" => true
      | some _ => false
      | none => !deep
    let plan := { transferPlan options true with
      deep, follows, followsInside := decide (link = some "L")
      exact := options.has "p" || options.has "a" || options.has "preserve"
      replaces := options.has "remove-destination"
      hardLinks := options.has "l", softLinks := options.has "s" }
    transfer call options fun source target => do
      if options.has "parents" then
        let _ ← makeParents source target
      copyEntry call plan maxDepth true none source target
where
  /-- Makes the directories in front of the last part of a name that was put in a directory. -/
  makeParents (source target : Octets) : Act Unit := do
    let parts := (source.dropWhile (· = '/')).length
    for index in List.range parts do
      let name := target.take (target.length - parts + index)
      if target[name.length]? = some '/' then
        let _ ← addNode name .directory 0o777

end Workyard.Shell.Program
