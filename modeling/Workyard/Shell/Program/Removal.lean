/-
**Programs that remove files.**

A directory is removed after all in it. What is left of it for any reason is left with it.

* `rm`, `rmdir`, `unlink`: the programs.
-/

import Workyard.Shell.Program.Place

namespace Workyard.Shell.Program

/-- Takes a single name away. -/
def unlink (call : Call) : Act Nat :=
  withOptions [] true 1 call fun options => do
    match options.rest with
    | [] => lacking call
    | [name] => match ← removeName name false with
      | .ok () => return 0
      | .error fault =>
        scold call.name (octets "cannot unlink " ++ asQuotedWord name ++ octets ": " ++ reason fault)
    | _ :: word :: _ => extra call word

/-- Removes directories in which nothing is. -/
def rmdir (call : Call) : Act Nat :=
  let known : List Choice := [("p", "parents", .nothing), ("v", "verbose", .nothing),
    ("", "ignore-fail-on-non-empty", .nothing)]
  withOptions known true 1 call fun options => do
    let removeOne (words : String) (name : Octets) : Act Bool := do
      tell (options.has "v") (call.name ++ octets ": removing directory, " ++ asQuotedWord name)
      let through : Bool := match ← spot name with
        | .ok found => found.isLink && found.slashed
        | .error _ => false
      match ← removeName name true with
      | .ok () => return true
      | .error fault =>
        if fault = .os .notEmpty && options.has "ignore-fail-on-non-empty" then return true
        else
          let why := if through then octets "Symbolic link not followed" else reason fault
          let _ ← scold call.name (octets words ++ asQuotedWord name ++ octets ": " ++ why)
          return false
    if options.rest = [] then lacking call
    else
      let mut status := 0
      for name in options.rest do
        let mut going ← removeOne "failed to remove " name
        if !going then status := 1
        if options.has "p" then
          for front in ((List.range name.length).filterMap fun index =>
              if name[index]? = some '/' && name.drop (index + 1) ≠ [] && 0 < index then some (name.take index)
              else none).reverse do
            if going then
              going ← removeOne "failed to remove directory " front
              if !going then status := 1
      return status

/-- How files are removed. -/
structure RemovalPlan where
  /-- Whether nothing is said of what is missing. -/
  force : Bool := false
  deep : Bool := false
  /-- Whether directories are removed in which nothing is. -/
  empties : Bool := false
  tells : Bool := false
  asks : Bool := false

/-- Whether a question is answered with yes. -/
def confirmed (call : Call) (words : Octets) : Act Bool := do
  flush
  write 2 (call.name ++ octets ": " ++ words ++ octets "? ")
  let (answer, _) ← readLine 0
  return answer.head? = some 'y' || answer.head? = some 'Y'

/-- What a node is, in words. -/
def kindWords (node : Files.Node) : String :=
  match node.kind with
  | .directory => "directory"
  | .file [] => "regular empty file"
  | .file _ => "regular file"
  | .device _ => "character special file"
  | .link _ => "symbolic link"
  | .pipe => "fifo"

/-- Removes what has a name; gives whether nothing is left of it. -/
def removeEntry (call : Call) (plan : RemovalPlan) : Nat → Octets → Act Bool
  | 0, _ => return false
  | fuel + 1, name => do
    let refuse (fault : IoFault) : Act Bool := do
      let _ ← scold call.name (octets "cannot remove " ++ asQuotedWord name ++ octets ": " ++ reason fault)
      return false
    match ← spotOf name with
    | .error fault =>
      if plan.force && (fault = .os .notFound || fault = .os .notADirectory) then return true else refuse fault
    | .ok found =>
      let words := (found.found.map fun entry => kindWords entry.2).getD ""
      let remove (directory : Bool) : Act Bool := do
        let agreed ← if plan.asks then
            confirmed call (octets s!"remove {words} " ++ asQuotedWord name) else pure true
        if !agreed then return false
        else match ← removeName name directory with
          | .ok () =>
            tell plan.tells (octets (if directory then "removed directory " else "removed ") ++ asQuotedWord name)
            return true
          | .error fault => refuse fault
      if !found.isDirectory then remove false
      else
        let children ← namesIn found.path
        if !plan.deep then
          if plan.empties then remove true else refuse (.os .isADirectory)
        else
          let agreed ← if plan.asks && children ≠ [] then
              confirmed call (octets "descend into directory " ++ asQuotedWord name) else pure true
          if !agreed then return false
          else
            let mut all := true
            for child in children do
              if !(← removeEntry call plan fuel (inside name child)) then all := false
            if all then remove true else return false

/-- Removes files. -/
def rm (call : Call) : Act Nat :=
  let known : List Choice := [("f", "force", .nothing), ("i", "", .nothing), ("I", "", .nothing),
    ("", "interactive", .perhaps), ("r", "recursive", .nothing), ("R", "", .nothing), ("d", "dir", .nothing),
    ("v", "verbose", .nothing), ("", "preserve-root", .perhaps), ("", "no-preserve-root", .nothing),
    ("", "one-file-system", .nothing)]
  withOptions known true 1 call fun options => do
    let last := options.lastOf? ["f", "i", "I", "interactive"]
    let how := if last = some "interactive" then options.last? "interactive" else none
    let force : Bool := last = some "f"
    let deep : Bool := options.has "r" || options.has "R"
    let asks : Bool := last = some "i" || (how.any fun word => word = [] || word = octets "always")
    let asksOnce : Bool := last = some "I" || how = some (octets "once")
    let plan : RemovalPlan := { force, deep, empties := options.has "d", tells := options.has "v", asks }
    if options.rest = [] then (if force then return 0 else lacking call)
    else
      let count := options.rest.length
      let agreed ← if asksOnce && (deep || 3 < count) then
          confirmed call (octets s!"remove {count} argument" ++ octets (if count = 1 then "" else "s") ++
            octets (if deep then " recursively" else ""))
        else pure true
      let mut status := 0
      if agreed then
        for name in options.rest do
          let bare := lastPart name
          let isRoot : Bool := match ← spotOf name with
            | .ok found => found.path = [] && name.head? = some '/'
            | .error _ => false
          if deep && (bare = ['.'] || bare = ['.', '.']) then
            status ← scold call.name (octets "refusing to remove '.' or '..' directory: skipping " ++ asQuotedWord name)
          else if deep && isRoot && !options.has "no-preserve-root" then
            let same := if name = ['/'] then [] else octets " (same as '/')"
            let _ ← scold call.name (octets "it is dangerous to operate recursively on " ++ asQuotedWord name ++ same)
            status ← scold call.name (octets "use --no-preserve-root to override this failsafe")
          else
            let before := (← spotOf name).toOption.isSome
            let gone ← removeEntry call plan maxDepth name
            let kept : Bool := before && plan.asks
            if !gone && !kept then status := 1
      return status

end Workyard.Shell.Program
