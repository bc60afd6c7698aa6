/-
**Listing files.**

Files are listed by name, in one line each or in columns, or at length with all that is known about them.

* `Listing.lines`: how a list of files is put out;
* `ls`, `dir`, `vdir`: the programs.
-/

import Workyard.Shell.Program.Calendar
import Workyard.Shell.Program.Place
import Workyard.Shell.Program.Sorting

namespace Workyard.Shell.Program

/-! ### Facts about nodes -/

/-- The size of a node in octets. -/
def nodeSize (node : Files.Node) : Nat :=
  match node.kind with
  | .file content => content.length
  | .directory => 4096
  | .link target => (octets target).length
  | _ => 0

/-- The blocks of 1024 octets that a node takes. -/
def nodeBlocks (node : Files.Node) : Nat :=
  match node.kind with
  | .file content => (content.length + 4095) / 4096 * 4
  | .directory => 4
  | _ => 0

/-- The letter of a kind. -/
def kindLetter (node : Files.Node) : Char :=
  match node.kind with
  | .directory => 'd'
  | .file _ => '-'
  | .device _ => 'c'
  | .link _ => 'l'
  | .pipe => 'p'

/-- The two numbers of a device. -/
def deviceNumbers (device : Files.Device) : Nat × Nat :=
  match device with
  | .sink => (1, 3)
  | .zeros => (1, 5)
  | .full => (1, 7)
  | .noise => (1, 9)
  | .terminal => (5, 0)

/-- The number of names of a node: a directory has one in itself and one in each directory in it. -/
def linksTo (tree : Files.Tree) (path : Files.Path) (number : Nat) (node : Files.Node) : Nat :=
  match node.kind with
  | .directory =>
    2 + ((tree.children path).filter fun child => match (tree.get? (path ++ [child])).map Files.Node.kind with
      | some .directory => true
      | _ => false).length
  | _ => tree.linkCount number

/-! ### What is listed -/

/-- A file in a list. -/
structure Listed where
  name : Octets
  path : Files.Path
  number : Nat
  node : Files.Node
  /-- What a link stands for. -/
  target : Option (Octets × Option Files.Node)

/-- How names are written. -/
inductive NameStyle where
  | plain
  /-- With a question mark for what cannot be printed. -/
  | shown
  | escaped
  | quoted
  | word
  | quotedWord
deriving DecidableEq

/-- In which way files are put out. -/
inductive ListForm where
  | lines | downward | across | commas | long
deriving DecidableEq

/-- How files are listed. -/
structure ListPlan where
  form : ListForm := .lines
  style : NameStyle := .plain
  /-- Whether names are listed that begin with a point, and whether those of the directory itself and of the
  one above. -/
  hidden : Bool := false
  above : Bool := false
  itself : Bool := false
  deep : Bool := false
  /-- What stands behind names: a slash for directories, and marks for others. -/
  slashes : Bool := false
  marks : Bool := false
  stars : Bool := false
  order : Option String := some "name"
  reversed : Bool := false
  directoriesFirst : Bool := false
  owner : Bool := true
  group : Bool := true
  inNumbers : Bool := false
  index : Bool := false
  blocks : Bool := false
  rounded : Option Nat := none
  follows : Bool := false
  followsArguments : Bool := true
  ends : Char := '\n'
  width : Nat := 80
  timeFormat : Option Octets := none
  ignored : List Octets := []

/-- The escape of a character in quotes. -/
def nameEscape (further : List Char) (c : Char) : Octets :=
  if further.contains c || c = '\\' then ['\\', c]
  else if isPrintable c then [c] else '\\' :: spelledOut c

/-- A name as it is written. -/
def NameStyle.text (style : NameStyle) (name : Octets) : Octets :=
  match style with
  | .plain => name
  | .shown => name.map fun c => if isPrintable c then c else '?'
  | .escaped => name.flatMap (nameEscape [' '])
  | .quoted => '"' :: name.flatMap (nameEscape ['"']) ++ ['"']
  | .word => asWordBeside [] name
  | .quotedWord => asQuotedWord name

/-- The mark behind a name. -/
def ListPlan.mark (plan : ListPlan) (node : Files.Node) : Octets :=
  match node.kind with
  | .directory => if plan.slashes then ['/'] else []
  | .link _ => if plan.marks then ['@'] else []
  | .pipe => if plan.marks then ['|'] else []
  | .file _ => if plan.stars && node.mode &&& 0o111 ≠ 0 then ['*'] else []
  | .device _ => []

/-- What stands behind the last point of a name. -/
def extension (name : Octets) : Octets :=
  if name.contains '.' then '.' :: (name.reverse.takeWhile (· ≠ '.')).reverse else []

/-- The order of two files. -/
def ListPlan.compare (plan : ListPlan) (one other : Listed) : Ordering :=
  let byName := byOctets one.name other.name
  let group : Ordering := if plan.directoriesFirst then
      let rank (item : Listed) : Nat := match item.node.kind, item.target with
        | .directory, _ => 0
        | _, some (_, some ⟨.directory, _, _⟩) => 0
        | _, _ => 1
      Ord.compare (rank one) (rank other)
    else .eq
  let order : Ordering := match plan.order with
    | some "time" => (Ord.compare other.node.time one.node.time).then byName
    | some "size" => (Ord.compare (nodeSize other.node) (nodeSize one.node)).then byName
    | some "extension" => (byOctets (extension one.name) (extension other.name)).then byName
    | some "version" => (byVersionName one.name other.name).then byName
    | _ => byName
  group.then (if plan.reversed then order.swap else order)

/-- Files in order. -/
def ListPlan.sorted (plan : ListPlan) (files : List Listed) : List Listed :=
  if plan.order.isNone then files else files.mergeSort fun one other => plan.compare one other ≠ .gt

/-! ### Columns -/

/-- Blanks from one column to another, as wide ones where there is room. -/
def blanksBetween : Nat → Nat → Nat → Octets
  | 0, _, _ => []
  | fuel + 1, start, stop =>
    if stop ≤ start then []
    else if (start + 1) / 8 < stop / 8 then '\t' :: blanksBetween fuel (start / 8 * 8 + 8) stop
    else ' ' :: blanksBetween fuel (start + 1) stop

/-- The widths of so many columns. -/
def columnWidths (downward : Bool) (widths : List Nat) (columns : Nat) : List Nat :=
  let rows := (widths.length + columns - 1) / columns
  widths.zipIdx.foldl (fun known (width, index) =>
    let column := if downward then index / rows else index % columns
    let wide := width + (if column + 1 = columns then 0 else 2)
    known.modify column (max wide)) (List.replicate columns 3)

/-- Names in columns. -/
def inColumns (downward : Bool) (width : Nat) (names : List Octets) : Octets :=
  let widths := names.map List.length
  let most := max 1 (min names.length ((width + 2) / 3))
  let fits (columns : Nat) : Bool := ((columnWidths downward widths columns).foldl (· + ·) 0) < width
  let columns := ((List.range (most - 1)).find? fun index => fits (most - index)).elim 1 (most - ·)
  let wide := columnWidths downward widths columns
  let rows := (names.length + columns - 1) / columns
  (List.range rows).flatMap fun row =>
    let cells := (List.range columns).filterMap fun column =>
      (names[if downward then column * rows + row else row * columns + column]?).map (column, ·)
    let (text, _) := cells.foldl (fun (state : Octets × Nat) (column, name) =>
      let start := (wide.take column).foldl (· + ·) 0
      (state.1 ++ blanksBetween width state.2 start ++ name, start + name.length)) ([], 0)
    text ++ ['\n']

/-- Names with commas between them, in lines of a width. -/
def withCommas (width : Nat) (names : List Octets) : Octets :=
  let (text, _) := names.zipIdx.foldl (fun (state : Octets × Nat) (name, index) =>
    if index = 0 then (name, name.length)
    else if width = 0 || state.2 + name.length + 2 < width then
      (state.1 ++ [',', ' '] ++ name, state.2 + 2 + name.length)
    else (state.1 ++ [',', '\n'] ++ name, name.length)) ([], 0)
  text ++ ['\n']

/-! ### At length -/

/-- A number of octets in the largest unit in which it is not below one, rounded up. -/
def roundedSize (base size : Nat) : Octets :=
  let letters := [[], if base = 1000 then ['k'] else ['K'], ['M'], ['G'], ['T'], ['P'], ['E']]
  let power := (List.range 7).reverse.find? fun power => Nat.pow base power ≤ size
  match power with
  | none | some 0 => decimal size
  | some power =>
    let unit := Nat.pow base power
    let tenths := (size * 10 + unit - 1) / unit
    let (text, power) := if tenths < 100 then (decimal (tenths / 10) ++ '.' :: decimal (tenths % 10), power)
      else
        let whole := (size + unit - 1) / unit
        if whole = base then (octets "1.0", power + 1) else (decimal whole, power)
    text ++ letters.getD power []

/-- A size as it is written. -/
def ListPlan.size (plan : ListPlan) (size : Nat) : Octets :=
  match plan.rounded with
  | some base => roundedSize base size
  | none => decimal size

/-- The time of a file as it is written. -/
def ListPlan.time (plan : ListPlan) (now : Nat) (node : Files.Node) : Octets :=
  let moment := Moment.ofMicroseconds node.time
  let recent : Bool := node.time ≤ now && now < node.time + 15778476 * 1000000
  let format := plan.timeFormat.getD (octets (if recent then "%b %e %H:%M" else "%b %e  %Y"))
  let format := match format.splitOn '\n' with
    | [older, newer] => if recent then newer else older
    | _ => format
  moment.written (4 * format.length + 64) format

/-- What stands in front of a name for the index and the blocks, in widths. -/
def ListPlan.front (plan : ListPlan) (widths : Nat × Nat) (file : Listed) : Octets :=
  (if plan.index then rightIn widths.1 (decimal file.number) ++ [' '] else []) ++
    (if plan.blocks then rightIn widths.2 (match plan.rounded with
      | some base => roundedSize base (nodeBlocks file.node * 1024)
      | none => decimal (nodeBlocks file.node)) ++ [' '] else [])

/-- The widest of texts. -/
def widest (texts : List Octets) : Nat := (texts.map List.length).foldl max 0

/-- How a list of files is put out. -/
def ListPlan.text (plan : ListPlan) (tree : Files.Tree) (files : List Listed) : Octets :=
  let widths := if plan.form = .lines || plan.form = .long || plan.form = .downward || plan.form = .across then
      (widest (files.map fun file => decimal file.number),
        widest (files.map fun file => match plan.rounded with
          | some base => roundedSize base (nodeBlocks file.node * 1024)
          | none => decimal (nodeBlocks file.node)))
    else (0, 0)
  let name (file : Listed) : Octets := plan.front widths file ++ plan.style.text file.name ++ plan.mark file.node
  match plan.form with
  | .lines => files.flatMap fun file => name file ++ [plan.ends]
  | .downward => if files.isEmpty then [] else inColumns true plan.width (files.map name)
  | .across => if files.isEmpty then [] else inColumns false plan.width (files.map name)
  | .commas => if files.isEmpty then [] else withCommas plan.width (files.map name)
  | .long =>
    let links (file : Listed) : Octets := decimal (linksTo tree file.path file.number file.node)
    let size (file : Listed) : Octets := match file.node.kind with
      | .device device =>
        let (major, minor) := deviceNumbers device
        decimal major ++ octets ", " ++ decimal minor
      | _ => plan.size (nodeSize file.node)
    let account := octets (if plan.inNumbers then "0 " else "root ")
    let linkWidth := widest (files.map links)
    let sizeWidth := widest (files.map size)
    files.flatMap fun file =>
      plan.front widths file ++ kindLetter file.node :: modeLetters file.node.mode ++ ' ' ::
        rightIn linkWidth (links file) ++ ' ' :: (if plan.owner then account else []) ++
        (if plan.group then account else []) ++ rightIn sizeWidth (size file) ++ ' ' ::
        plan.time tree.now file.node ++ ' ' :: plan.style.text file.name ++
        (match file.target with
          | some (target, node) => octets " -> " ++ plan.style.text target ++
            (node.elim [] fun node => plan.mark node)
          | none => plan.mark file.node) ++ [plan.ends]

/-! ### Going through directories -/

/-- A file as it is listed. -/
def listed (plan : ListPlan) (follow : Bool) (name : Octets) (full : Octets) : Act (Except IoFault Listed) := do
  let linked ← spotOf full
  let reached ← if follow then spotOf full true else pure linked
  let reached : Except IoFault Spot := match reached, linked with
    | .error fault, .ok linked => if plan.follows then .error fault else .ok linked
    | reached, _ => reached
  match reached with
  | .error fault => return .error fault
  | .ok found => match found.found with
    | none => return .error (.os .notFound)
    | some (number, node) =>
      let tree ← tree
      let target := match node.kind with
        | .link target =>
          some (octets target, (tree.find (spelled full)).toOption)
        | _ => none
      return .ok { name, path := found.path, number, node, target }

/-- Complains about a file that cannot be reached. -/
def noAccess (call : Call) (name : Octets) (fault : IoFault) : Act Nat :=
  scold call.name (octets "cannot access " ++ asQuotedWord name ++ octets ": " ++ reason fault)

/-- Lists a directory, and if wanted all directories in it; gives the status. -/
def listDirectory (call : Call) (plan : ListPlan) (titled : Bool) : Nat → Bool → Octets → Act Nat
  | 0, _, _ => return 0
  | fuel + 1, first, name => do
    let path := match ← spotOf name true with
      | .ok found => found.path
      | .error _ => []
    let children ← namesIn path
    let wanted := children.filter fun child =>
      (plan.hidden || child.head? ≠ some '.') &&
        !plan.ignored.any fun text => (Pattern.ofMarked {} (text.length + 1) (text.map (·, true))).matches child
    let names := (if plan.above then [['.'], ['.', '.']] else []) ++ wanted
    let mut found := []
    let mut status := 0
    for child in names do
      match ← listed plan plan.follows child (inside name child) with
      | .ok file => found := file :: found
      | .error fault =>
        let _ ← noAccess call (inside name child) fault
        status := 1
    let files := plan.sorted found.reverse
    if titled then
      put ((if first then [] else ['\n']) ++ plan.style.text name ++ octets ":\n")
    if plan.form = .long || plan.blocks then
      let total := (files.map fun file => nodeBlocks file.node).foldl (· + ·) 0
      put (octets "total " ++ (match plan.rounded with
        | some base => roundedSize base (total * 1024)
        | none => decimal total) ++ ['\n'])
    put (plan.text (← tree) files)
    if plan.deep then
      for file in files do
        let isDirectory : Bool := match file.node.kind with
          | .directory => true
          | _ => false
        if isDirectory && file.name ≠ ['.'] && file.name ≠ ['.', '.'] then
          status := max status (← listDirectory call plan true fuel false (inside name file.name))
    return status

/-- The options of the program. -/
def listChoices : List Choice :=
  [("a", "all", .nothing), ("A", "almost-all", .nothing), ("", "author", .nothing), ("b", "escape", .nothing),
    ("", "block-size", .value), ("B", "ignore-backups", .nothing), ("c", "", .nothing), ("C", "", .nothing),
    ("", "color", .perhaps), ("d", "directory", .nothing), ("D", "dired", .nothing), ("f", "", .nothing),
    ("F", "", .nothing), ("", "classify", .perhaps), ("", "file-type", .nothing), ("", "format", .value), ("", "full-time", .nothing),
    ("g", "", .nothing), ("", "group-directories-first", .nothing), ("G", "no-group", .nothing),
    ("h", "human-readable", .nothing), ("", "si", .nothing), ("H", "dereference-command-line", .nothing),
    ("", "hide", .value), ("", "indicator-style", .value), ("i", "inode", .nothing), ("I", "ignore", .value),
    ("k", "kibibytes", .nothing), ("l", "", .nothing), ("L", "dereference", .nothing), ("m", "", .nothing),
    ("n", "numeric-uid-gid", .nothing), ("N", "literal", .nothing), ("o", "", .nothing),
    ("p", "", .nothing), ("q", "hide-control-chars", .nothing), ("", "show-control-chars", .nothing),
    ("Q", "quote-name", .nothing), ("", "quoting-style", .value), ("r", "reverse", .nothing),
    ("R", "recursive", .nothing), ("s", "size", .nothing), ("S", "", .nothing), ("", "sort", .value),
    ("", "time", .value), ("", "time-style", .value), ("t", "", .nothing), ("T", "tabsize", .value),
    ("u", "", .nothing), ("U", "", .nothing), ("v", "", .nothing), ("w", "width", .value), ("x", "", .nothing),
    ("X", "", .nothing), ("Z", "context", .nothing), ("", "zero", .nothing), ("1", "", .nothing)]

/-- The plan that options ask for, in a usual form and style. -/
def ListPlan.ofOptions (options : Options) (form : ListForm) (style : NameStyle) : ListPlan :=
  let given := options.given.map (·.1)
  let has := options.has
  let chosen := (options.given.reverse.findSome? fun (key, value) => match key with
    | "l" | "g" | "o" | "n" | "full-time" => some ListForm.long
    | "C" => some .downward
    | "x" => some .across
    | "m" => some .commas
    | "zero" => some .lines
    | "1" => if given.any fun key => ["l", "g", "o", "n", "full-time"].contains key then some .long else some .lines
    | "format" => match spelled value with
      | "long" | "verbose" => some .long
      | "vertical" => some .downward
      | "across" | "horizontal" => some .across
      | "commas" => some .commas
      | _ => some .lines
    | _ => none).getD form
  let styled := (options.given.reverse.findSome? fun (key, value) => match key with
    | "b" => some NameStyle.escaped
    | "Q" => some .quoted
    | "N" => some .plain
    | "quoting-style" => match spelled value with
      | "escape" => some .escaped
      | "c" => some .quoted
      | "shell" | "shell-escape" => some .word
      | "shell-always" | "shell-escape-always" => some .quotedWord
      | _ => some .plain
    | _ => none).getD style
  let style := if styled = .plain && (options.lastOf? ["q", "show-control-chars"]) = some "q" then .shown else styled
  let order := (options.given.reverse.findSome? fun (key, value) => match key with
    | "t" => some (some "time")
    | "S" => some (some "size")
    | "X" => some (some "extension")
    | "v" => some (some "version")
    | "U" | "f" => some none
    | "sort" => if value = octets "none" then some none else some (some (spelled value))
    | _ => none).getD (if (has "c" || has "u") && chosen ≠ .long then some "time" else some "name")
  let indicated := (options.given.reverse.findSome? fun (key, value) => match key with
    | "p" => some "slash"
    | "F" => some "classify"
    | "classify" => if value = [] || value = octets "always" then some "classify" else some "none"
    | "file-type" => some "file-type"
    | "indicator-style" => some (spelled value)
    | _ => none).getD "none"
  { form := chosen, style
    hidden := has "a" || has "A" || has "f"
    above := (match options.lastOf? ["a", "A", "f"] with
      | some "a" | some "f" => true
      | _ => false)
    itself := has "d", deep := has "R"
    slashes := indicated ≠ "none", marks := indicated = "classify" || indicated = "file-type"
    stars := indicated = "classify"
    order, reversed := has "r", directoriesFirst := has "group-directories-first"
    owner := !has "g", group := !has "o" && !has "G", inNumbers := has "n"
    index := has "i", blocks := has "s"
    rounded := if has "h" then some 1024 else if has "si" then some 1000 else none
    follows := has "L"
    followsArguments := has "L" || has "H" || !(chosen = .long || has "d" || indicated = "classify")
    ends := if has "zero" then '\x00' else '\n'
    width := ((options.last? "w").map (valueIn 10)).getD 80
    timeFormat := (options.given.reverse.findSome? fun (key, value) => match key with
      | "full-time" => some (some (octets "%Y-%m-%d %H:%M:%S.%N %z"))
      | "time-style" => match value with
        | '+' :: format => some (some format)
        | _ => match spelled value with
          | "full-iso" => some (some (octets "%Y-%m-%d %H:%M:%S.%N %z"))
          | "long-iso" => some (some (octets "%Y-%m-%d %H:%M"))
          | "iso" => some (some (octets "%Y-%m-%d \n%m-%d %H:%M"))
          | _ => some none
      | _ => none).getD none
    ignored := options.all "I" ++ (if has "B" then [octets "*~", octets ".*~"] else []) ++
      (if has "a" || has "A" then [] else options.all "hide") }

/-- Lists files in a usual form. -/
def listWith (form : ListForm) (style : NameStyle) (call : Call) : Act Nat :=
  withOptions listChoices true 2 call fun options => do
    let plan := ListPlan.ofOptions options form style
    let names := if options.rest = [] then [['.']] else options.rest
    let mut found := []
    let mut places := []
    let mut status := 0
    for name in names do
      match ← listed plan plan.followsArguments name name with
      | .error fault =>
        let _ ← noAccess call name fault
        status := 2
      | .ok file =>
        let isDirectory : Bool := match file.node.kind with
          | .directory => true
          | _ => false
        if isDirectory && !plan.itself then places := file :: places else found := file :: found
    let files := plan.sorted found.reverse
    let directories := plan.sorted places.reverse
    let several : Bool := 1 < names.length || plan.deep
    if !files.isEmpty then put (plan.text (← tree) files)
    let mut first := files.isEmpty
    for file in directories do
      status := max status (← listDirectory call plan several maxDepth first file.name)
      first := false
    return status

/-- Lists files, one in a line. -/
def ls (call : Call) : Act Nat := listWith .lines .plain call

/-- Lists files in columns. -/
def dir (call : Call) : Act Nat := listWith .downward .escaped call

/-- Lists files at length. -/
def vdir (call : Call) : Act Nat := listWith .long .escaped call

end Workyard.Shell.Program
