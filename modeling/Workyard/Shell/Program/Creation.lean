/-
**Programs that make files.**

* `mkdir`, `mkfifo`, `mktemp`, `touch`, `truncate`: new files, pipes and directories;
* `ln`, `link`: other names for files;
* `chmod`: other permissions.
-/

import Workyard.Shell.Program.Calendar
import Workyard.Shell.Program.Place

namespace Workyard.Shell.Program

/-! ### Directories and pipes -/

/-- The names in front of each slash of a name, and the name itself. -/
def nameFronts (name : Octets) : List Octets :=
  let bare := withoutSlashes name
  (List.range bare.length).filterMap fun index =>
    let atEnd : Bool := (bare.drop (index + 1)).head?.all (· = '/') && bare[index]? ≠ some '/'
    if atEnd then some (bare.take (index + 1)) else none

/-- Makes the directories on the way to a name that are missing, and that of the name. -/
def makeWay (call : Call) (tells : Bool) (mode : Option Nat) (name : Octets) : Act Bool := do
  let refuse (name : Octets) (fault : IoFault) : Act Bool := do
    let _ ← scold call.name (octets "cannot create directory " ++ asQuotedWord name ++ octets ": " ++ reason fault)
    return false
  let fronts := nameFronts name
  if name = [] then refuse name (.os .notFound)
  else
    let mut result := true
    for (front, index) in fronts.zipIdx do
      if result then
        let atEnd : Bool := index + 1 = fronts.length
        match (← tree).find (spelled front) with
        | .ok ⟨.directory, _, _⟩ => pure ()
        | .ok _ =>
          let _ ← refuse (if atEnd then name else front) (.os (if atEnd then .alreadyExists else .notADirectory))
          result := false
        | .error _ =>
          match ← addNode front .directory 0o777 with
          | .ok number =>
            match mode, atEnd with
            | some mode, true => changeNode number fun node => { node with mode }
            | _, _ => pure ()
            tell tells (call.name ++ octets ": created directory " ++ asQuotedWord (if atEnd then name else front))
          | .error fault =>
            let _ ← refuse (if atEnd then name else front) fault
            result := false
    return result

/-- Makes directories. -/
def mkdir (call : Call) : Act Nat :=
  let known : List Choice := [("p", "parents", .nothing), ("m", "mode", .value), ("v", "verbose", .nothing),
    ("Z", "context", .perhaps)]
  withOptions known true 1 call fun options => do
    if options.rest = [] then lacking call
    else match ← modeOption options 0o777 with
      | none => scold call.name (octets "invalid mode " ++ inQuotes ((options.last? "m").getD []))
      | some mode =>
        let given := if options.has "m" then some mode else none
        let mut status := 0
        for name in options.rest do
          if options.has "p" then
            if !(← makeWay call (options.has "v") given name) then status := 1
          else match ← addNode name .directory 0o777 with
            | .ok number =>
              match given with
              | some mode => changeNode number fun node => { node with mode }
              | none => pure ()
              tell (options.has "v") (call.name ++ octets ": created directory " ++ asQuotedWord name)
            | .error fault =>
              status ← scold call.name (octets "cannot create directory " ++ asQuotedWord name ++
                octets ": " ++ reason fault)
        return status

/-- Makes pipes with names. -/
def mkfifo (call : Call) : Act Nat :=
  withOptions [("m", "mode", .value), ("Z", "context", .perhaps)] true 1 call fun options => do
    if options.rest = [] then lacking call
    else match ← modeOption options 0o666 with
      | none => scold call.name (octets "invalid mode")
      | some mode =>
        let mut status := 0
        for name in options.rest do
          match ← addNode name .pipe 0o666 with
          | .ok number => changeNode number fun node => { node with mode }
          | .error fault =>
            status ← scold call.name (octets "cannot create fifo " ++ asQuotedWord name ++ octets ": " ++ reason fault)
        return status

/-! ### Files -/

/-- The letters and digits of names that nobody has. -/
def freshLetters : List Char := "abcdefghijklmnopqrstuvwxyzABCDEFGHIJKLMNOPQRSTUVWXYZ0123456789".toList

/-- Letters and digits, so many of them, that follow from a number. -/
def freshName : Nat → Nat → Octets
  | 0, _ => []
  | count + 1, seed =>
    let next := (seed * 6364136223846793005 + 1442695040888963407) % Nat.pow 2 64
    (freshLetters[(next >>> 33) % 62]?).getD 'a' :: freshName count next

/-- A name made of a template in the place of whose last marks letters stand, and that is free. -/
def freeName (template suffix : Octets) (count : Nat) : Nat → Nat → Act (Except IoFault Octets)
  | 0, _ => return .error (.os .alreadyExists)
  | fuel + 1, seed => do
    let name := template.take (template.length - count) ++ freshName count seed ++ suffix
    match ← spot name with
    | .error fault => return .error fault
    | .ok found => if found.found.isSome then freeName template suffix count fuel (seed + 1) else return .ok name

/-- Makes a file or directory with a name that nobody has. -/
def mktemp (call : Call) : Act Nat :=
  let known : List Choice := [("d", "directory", .nothing), ("q", "quiet", .nothing), ("u", "dry-run", .nothing),
    ("p", "", .value), ("", "tmpdir", .perhaps), ("t", "", .nothing), ("", "suffix", .value)]
  withOptions known true 1 call fun options => do
    match options.rest with
    | _ :: _ :: _ => misused call.name (octets "too many templates")
    | given =>
      let shell ← get
      let room := match (shell.bindings.find? fun entry => entry.1 = "TMPDIR" && entry.2.exported).bind (·.2.text) with
        | some (c :: name) => c :: name
        | _ => octets "/tmp"
      let asked := (options.last? "p").or (options.last? "tmpdir")
      let placed : Bool := asked.isSome || options.has "t" || given = []
      let place := match asked with
        | some (c :: name) => if options.has "t" then room else c :: name
        | _ => room
      let template := given.headD (octets "tmp.XXXXXXXXXX")
      let suffix? := options.last? "suffix"
      let wrong (words : Octets) : Act Nat :=
        if options.has "q" then return 1 else scold call.name words
      if suffix?.isSome && template.getLast? ≠ some 'X' then
        scold call.name (octets "with --suffix, template " ++ asQuotedWord template ++ octets " must end in X")
      else
        let front := match suffix? with
          | some _ => template
          | none => (template.reverse.dropWhile (· ≠ 'X')).reverse
        let suffix := suffix?.getD (template.drop front.length)
        let count := (front.reverse.takeWhile (· = 'X')).length
        if suffix.contains '/' then
          scold call.name (octets "invalid suffix " ++ asQuotedWord suffix ++ octets ", contains directory separator")
        else if count < 3 then
          scold call.name (octets "too few X's in template " ++ asQuotedWord template)
        else if placed && options.has "t" && template.contains '/' then
          scold call.name (octets "invalid template, " ++ asQuotedWord template ++
            octets ", contains directory separator")
        else if placed && template.head? = some '/' then
          scold call.name (octets "invalid template, " ++ asQuotedWord template ++
            octets "; with --tmpdir, it may not be absolute")
        else
          let full := if placed then inside place front else front
          let directory : Bool := options.has "d"
          let failed (fault : IoFault) : Act Nat :=
            wrong (octets (if directory then "failed to create directory via template "
              else "failed to create file via template ") ++ asQuotedWord (full ++ suffix) ++ octets ": " ++ reason fault)
          let seed := shell.world.clock * 1000003 + shell.process * 7919 + shell.world.tree.fresh
          match ← freeName full suffix count 1000 seed with
          | .error fault => failed fault
          | .ok name =>
            let made ← if options.has "u" then pure (.ok 0)
              else if directory then addNode name .directory 0o700 else addNode name (.file []) 0o600
            match made with
            | .error fault => failed fault
            | .ok _ =>
              put (name ++ ['\n'])
              return 0

/-- Gives files the time, and makes those that are missing. -/
def touch (call : Call) : Act Nat :=
  let known : List Choice := [("a", "", .nothing), ("c", "no-create", .nothing), ("d", "date", .value),
    ("f", "", .nothing), ("h", "no-dereference", .nothing), ("m", "", .nothing), ("r", "reference", .value),
    ("t", "", .value), ("", "time", .value)]
  withOptions known true 1 call fun options => do
    let now := (← tree).now
    let wanted : Except Octets Nat ← match options.last? "r", options.last? "t", options.last? "d" with
      | some name, _, _ => do
        match (← tree).find (spelled name) with
        | .ok node => pure (.ok node.time)
        | .error fault => pure (.error (octets "failed to get attributes of " ++ asQuotedWord name ++
            octets ": " ++ reason fault))
      | none, some text, _ => pure (match stampTime now text with
        | some time => .ok time
        | none => .error (octets "invalid date format " ++ inQuotes text))
      | none, none, some text => pure (match dateTime now text with
        | some time => .ok time
        | none => .error (octets "invalid date format " ++ inQuotes text))
      | none, none, none => pure (.ok now)
    match wanted with
    | .error words => scold call.name words
    | .ok time =>
      if options.rest = [] then misused call.name (octets "missing file operand")
      else
        let follow : Bool := !options.has "h"
        let mut status := 0
        for name in options.rest do
          let refuse (words : String) (fault : IoFault) : Act Nat :=
            scold call.name (octets words ++ asQuotedWord name ++ octets ": " ++ reason fault)
          match (← tree).entry (spelled name) follow with
          | .ok (number, _) =>
            if options.has "a" && !options.has "m" then pure ()
            else changeNode number fun node => { node with time }
          | .error fault =>
            if options.has "c" && (fault = .os .notFound || fault = .os .notADirectory) then pure ()
            else if !follow then status ← refuse "setting times of " fault
            else if name.getLast? = some '/' then status ← refuse "setting times of " fault
            else match ← inTree fun tree => tree.openAppend (spelled name) with
              | .ok number => changeNode number fun node => { node with time }
              | .error fault => status ← refuse "cannot touch " fault
        return status

/-- The size that a text asks for, from the size that there is. -/
def sizeFrom (text : Octets) (size : Nat) : Option Nat :=
  match text with
  | '+' :: rest => (multiple? rest).map (size + ·)
  | '-' :: rest => (multiple? rest).map (size - ·)
  | '<' :: rest => (multiple? rest).map (min size)
  | '>' :: rest => (multiple? rest).map (max size)
  | '/' :: rest => (multiple? rest).bind fun unit => if unit = 0 then none else some (size / unit * unit)
  | '%' :: rest => (multiple? rest).bind fun unit =>
    if unit = 0 then none else some ((size + unit - 1) / unit * unit)
  | rest => multiple? rest

/-- Gives files other sizes. -/
def truncate (call : Call) : Act Nat :=
  let known : List Choice := [("c", "no-create", .nothing), ("o", "io-blocks", .nothing), ("r", "reference", .value),
    ("s", "size", .value)]
  withOptions known true 1 call fun options => do
    let text := options.last? "s"
    let given := options.last? "r"
    if text.isNone && given.isNone then misused call.name (octets "you must specify either '--size' or '--reference'")
    else if text.any fun text => (sizeFrom (text.dropWhile isSpace) 0).isNone then
      scold call.name (octets "Invalid number: " ++ inQuotes (text.getD []))
    else if options.rest = [] then misused call.name (octets "missing file operand")
    else
      let sizeOf (node : Files.Node) : Nat := match node.kind with
        | .file content => content.length
        | _ => 0
      let files ← tree
      let base : Except IoFault (Option Nat) := match given with
        | none => .ok none
        | some name => (files.find (spelled name)).map fun node => some (sizeOf node)
      match base with
      | .error fault => scold call.name (octets "cannot stat " ++ asQuotedWord (given.getD []) ++ octets ": " ++ reason fault)
      | .ok base =>
        let mut status := 0
        for name in options.rest do
          let missing : Bool := match (← tree).find (spelled name) with
            | .error (.os .notFound) => true
            | _ => false
          if !(missing && options.has "c") then
            match ← inTree fun tree => tree.openAppend (spelled name) with
            | .error fault =>
              status ← scold call.name (octets "cannot open " ++ asQuotedWord name ++ octets " for writing: " ++ reason fault)
            | .ok number => changeNode number fun node => match node.kind with
              | .file content =>
                let before := base.getD content.length
                let size := ((text.bind fun text => sizeFrom (text.dropWhile isSpace) before)).getD before
                { node with kind := .file (content.take size ++ List.replicate (size - content.length) 0) }
              | _ => node
        return status

/-! ### Links -/

/-- The way from one directory to a path. -/
def wayBetween (place path : Files.Path) : Octets :=
  let common := ((place.zip path).takeWhile fun pair => pair.1 = pair.2).length
  let parts := List.replicate (place.length - common) ".." ++ path.drop common
  if parts = [] then ['.'] else octets ("/".intercalate parts)

/-- Gives files other names, or names that stand for theirs. -/
def ln (call : Call) : Act Nat :=
  let known : List Choice := [("s", "symbolic", .nothing), ("f", "force", .nothing), ("i", "interactive", .nothing),
    ("n", "no-dereference", .nothing), ("t", "target-directory", .value), ("T", "no-target-directory", .nothing),
    ("r", "relative", .nothing), ("v", "verbose", .nothing), ("b", "", .nothing), ("", "backup", .perhaps),
    ("L", "logical", .nothing), ("P", "physical", .nothing), ("d", "directory", .nothing),
    ("F", "", .nothing), ("S", "suffix", .value)]
  withOptions known true 1 call fun options => do
    let soft : Bool := options.has "s"
    let make (target name : Octets) : Act Bool := do
      let words := octets (if soft then "failed to create symbolic link " else "failed to create hard link ")
      let refuse (arrow : Option Octets) (fault : IoFault) : Act Bool := do
        let _ ← scold call.name (words ++ asQuotedWord name ++ (match arrow with
          | some sign => sign ++ asQuotedWord target
          | none => []) ++ octets ": " ++ reason fault)
        return false
      let source : Except IoFault (Option Spot) ← if soft then pure (.ok none) else do
          match ← spotOf target (options.has "L") with
          | .ok found => pure (.ok (some found))
          | .error fault => pure (.error fault)
      match source with
      | .error fault =>
        let _ ← scold call.name (octets "failed to access " ++ asQuotedWord target ++ octets ": " ++ reason fault)
        return false
      | .ok source =>
        if source.any Spot.isDirectory then
          let _ ← scold call.name (asWord target ++ octets ": hard link not allowed for directory")
          return false
        else
          let before ← spot name
          let same : Bool := match source, before with
            | some source, .ok found => source.path = found.path
            | _, _ => false
          let covers : Bool := match before with
            | .ok found => found.found.isSome
            | _ => false
          if options.has "f" && same then
            let _ ← scold call.name (asQuotedWord target ++ octets " and " ++ asQuotedWord name ++
              octets " are the same file")
            return false
          else
            match before with
            | .ok found =>
              if options.has "f" && found.isDirectory then
                let _ ← scold call.name (asWord name ++ octets ": cannot overwrite directory")
                return false
              if options.has "f" && covers then
                let _ ← removeName name false
            | .error _ => pure ()
            let text ← if !options.has "r" then pure target else do
              let tree ← tree
              match tree.locate (spelled target), tree.locate (spelled (frontPart name)) with
              | .ok there, .ok here => pure (wayBetween here.path there.path)
              | _, _ => pure target
            let made : Except IoFault Unit ← match source with
              | none =>
                if text = [] then pure (.error (.os .notFound))
                else do
                  match ← addNode name (.link (spelled text)) 0o777 with
                  | .ok number =>
                    changeNode number fun node => { node with mode := 0o777 }
                    pure (.ok ())
                  | .error fault => pure (.error fault)
              | some source => match source.found with
                | some (number, _) => addName name number
                | none => pure (.error (.os .notFound))
            match made with
            | .error fault =>
              refuse (if text = [] then some (octets " -> ") else if soft || fault = .os .alreadyExists then none
                else some (octets " => ")) fault
            | .ok () =>
              tell (options.has "v") (asQuotedWord name ++ octets (if soft then " -> " else " => ") ++
                asQuotedWord text)
              return true
    let makeAll (targets : List Octets) (place : Octets) : Act Nat := do
      let mut status := 0
      for target in targets do
        if !(← make target (inside place (lastPart target))) then status := 1
      return status
    match options.last? "t", options.rest with
    | _, [] => misused call.name (octets "missing file operand")
    | some place, targets =>
      if ← isDirectoryName place then makeAll targets place
      else
        let fault : IoFault := match (← tree).find (spelled place) with
          | .error fault => fault
          | .ok _ => .os .notADirectory
        scold call.name (octets "target directory " ++ asQuotedWord place ++ octets ": " ++ reason fault)
    | none, [target] =>
      if options.has "T" then
        misused call.name (octets "missing destination file operand after " ++ asQuotedWord target)
      else makeAll [target] ['.']
    | none, targets =>
      let place := targets.getLast?.getD []
      let sources := targets.dropLast
      if options.has "T" && sources.length ≠ 1 then
        misused call.name (octets "extra operand " ++ asQuotedWord (targets.getD 2 []))
      else
        let follow : Bool := !options.has "n"
        let isPlace : Bool := match (← tree).find (spelled place) follow with
          | .ok ⟨.directory, _, _⟩ => true
          | _ => false
        if isPlace && !options.has "T" then makeAll sources place
        else match sources with
          | [target] => return if ← make target place then 0 else 1
          | _ =>
            let fault : IoFault := match (← tree).find (spelled place) with
              | .error fault => fault
              | .ok _ => .os .notADirectory
            scold call.name (octets "target " ++ asQuotedWord place ++ octets ": " ++ reason fault)

/-- Gives a file another name. -/
def link (call : Call) : Act Nat :=
  withOptions [] true 1 call fun options => do
    match options.rest with
    | [] => lacking call
    | [name] => misused call.name (octets "missing operand after " ++ inQuotes name)
    | [target, name] =>
      let refuse (fault : IoFault) : Act Nat :=
        scold call.name (octets "cannot create link " ++ asQuotedWord name ++ octets " to " ++
          asQuotedWord target ++ octets ": " ++ reason fault)
      match ← spotOf target with
      | .error fault => refuse fault
      | .ok found => match found.found with
        | some (number, _) =>
          if found.isDirectory then refuse (.os .notPermitted)
          else match ← addName name number with
            | .ok () => return 0
            | .error fault => refuse fault
        | none => refuse (.os .notFound)
    | _ :: _ :: word :: _ => extra call word

/-! ### Permissions -/

/-- Gives a file other permissions, and if wanted all in it too; says what became of it. -/
def changeMode (call : Call) (change : Bool → Nat → Nat) (deep quiet : Bool) (tells : Option Bool) :
    Nat → Bool → Octets → Act Bool
  | 0, _, _ => return false
  | fuel + 1, top, name => do
    match ← spotOf name with
    | .error fault =>
      if !quiet then
        let _ ← scold call.name (octets "cannot access " ++ asQuotedWord name ++ octets ": " ++ reason fault)
      return false
    | .ok found =>
      let files ← tree
      let target : Except IoFault (Nat × Files.Node) := if found.isLink then files.entry (spelled name)
        else match found.found with
          | some found => .ok found
          | none => .error (.os .notFound)
      match target with
      | .error _ =>
        if !top then return true
        if !quiet then
          let _ ← scold call.name (octets "cannot operate on dangling symlink " ++ asQuotedWord name)
        return false
      | .ok (number, node) =>
        if found.isLink && !top then return true
        let directory : Bool := match node.kind with
          | .directory => true
          | _ => false
        let mode := change directory node.mode
        changeNode number fun node => { node with mode }
        let spelling (mode : Nat) : Octets := modeDigits 4 mode ++ octets " (" ++ modeLetters mode ++ [')']
        match tells with
        | some always =>
          if mode ≠ node.mode then
            put (octets "mode of " ++ asQuotedWord name ++ octets " changed from " ++ spelling node.mode ++
              octets " to " ++ spelling mode ++ ['\n'])
          else if always then
            put (octets "mode of " ++ asQuotedWord name ++ octets " retained as " ++ spelling mode ++ ['\n'])
        | none => pure ()
        if deep && found.isDirectory then
          let mut result := true
          for child in ← namesIn found.path do
            if !(← changeMode call change deep quiet tells fuel false (inside name child)) then result := false
          return result
        else return true

/-- The arguments with those that take permissions away marked as no options. -/
def beforeModes : List Octets → List Octets
  | [] => []
  | ['-', '-'] :: rest => ['-', '-'] :: rest
  | ('-' :: c :: word) :: rest =>
    if "rwxXstugo".toList.contains c then ['-', '-'] :: ('-' :: c :: word) :: rest
    else ('-' :: c :: word) :: beforeModes rest
  | word :: rest => word :: beforeModes rest

/-- Gives files other permissions. -/
def chmod (call : Call) : Act Nat :=
  let known : List Choice := [("R", "recursive", .nothing), ("v", "verbose", .nothing), ("c", "changes", .nothing),
    ("f", "quiet", .nothing), ("f", "silent", .nothing), ("", "reference", .value),
    ("", "preserve-root", .nothing), ("", "no-preserve-root", .nothing)]
  withOptions known true 1 { call with arguments := beforeModes call.arguments } fun options => do
    let tells := if options.has "v" then some true else if options.has "c" then some false else none
    let apply (change : Bool → Nat → Nat) (names : List Octets) : Act Nat := do
      let mut status := 0
      for name in names do
        if !(← changeMode call change (options.has "R") (options.has "f") tells maxDepth true name) then status := 1
      return status
    match options.last? "reference", options.rest with
    | _, [] => lacking call
    | some given, names => match (← tree).find (spelled given) with
      | .ok node => apply (fun _ _ => node.mode) names
      | .error fault =>
        scold call.name (octets "failed to get attributes of " ++ asQuotedWord given ++ octets ": " ++ reason fault)
    | none, [text] => misused call.name (octets "missing operand after " ++ inQuotes text)
    | none, text :: names =>
      let mask := (← tree).mask
      if (changedMode false mask 0 text).isNone then misused call.name (octets "invalid mode: " ++ inQuotes text)
      else apply (fun directory mode => (changedMode directory mask mode text).getD mode) names

end Workyard.Shell.Program
