/-
**Programs that spell octets.**

* `base64`, `base32`: octets in a few letters and digits, and back;
* `digestSum`, `cksum`, `sum`: digests and checks of files;
* `od`: octets in digits.
-/

import Workyard.Shell.Digest
import Workyard.Shell.Program.Plain

namespace Workyard.Shell.Program

/-! ### Letters for octets -/

/-- An alphabet: its characters, each of which stands for so many bits, and the octets that are spelled
together. -/
structure Alphabet where
  letters : List Char
  bits : Nat
  group : Nat

/-- The alphabet of 64 characters. -/
def letters64 : Alphabet :=
  ⟨"ABCDEFGHIJKLMNOPQRSTUVWXYZabcdefghijklmnopqrstuvwxyz0123456789+/".toList, 6, 3⟩

/-- The alphabet of 32 characters. -/
def letters32 : Alphabet := ⟨"ABCDEFGHIJKLMNOPQRSTUVWXYZ234567".toList, 5, 5⟩

/-- The characters of a full group. -/
def Alphabet.length (alphabet : Alphabet) : Nat := alphabet.group * 8 / alphabet.bits

/-- The characters for a group of octets. -/
def Alphabet.spelledGroup (alphabet : Alphabet) (group : Octets) : Octets :=
  let value := Digest.wordOf ((group.map Char.toNat) ++ List.replicate (alphabet.group - group.length) 0)
  let count := (group.length * 8 + alphabet.bits - 1) / alphabet.bits
  let digits := (List.range alphabet.length).map fun index =>
    alphabet.letters.getD (value / Nat.pow 2 (alphabet.bits * (alphabet.length - 1 - index)) % Nat.pow 2 alphabet.bits) '='
  digits.take count ++ List.replicate (alphabet.length - count) '='

/-- The characters for octets. -/
def Alphabet.spelled (alphabet : Alphabet) : Nat → Octets → Octets
  | 0, _ => []
  | _, [] => []
  | fuel + 1, text => alphabet.spelledGroup (text.take alphabet.group) ++ spelled alphabet fuel (text.drop alphabet.group)

/-- The octets that a group of characters stands for, and whether it is a proper one. -/
def Alphabet.readGroup (alphabet : Alphabet) (group : Octets) : Octets × Bool :=
  let digits := group.takeWhile fun c => alphabet.letters.contains c
  let count := digits.length * alphabet.bits / 8
  let value := (digits.map fun c => (alphabet.letters.idxOf? c).getD 0).foldl
    (fun value digit => value * Nat.pow 2 alphabet.bits + digit) 0
  let bits := digits.length * alphabet.bits
  let octets := (Digest.octetsOf count (value / Nat.pow 2 (bits - count * 8))).map octetChar
  let least := (count * 8 + alphabet.bits - 1) / alphabet.bits
  let proper : Bool := (group.drop digits.length).all (· = '=') && digits.length = least && 0 < count &&
    group.length = alphabet.length
  (octets, proper)

/-- The octets that characters stand for, and whether all is well with them. -/
def Alphabet.read (alphabet : Alphabet) : Nat → Octets → Octets × Bool
  | 0, _ => ([], true)
  | _, [] => ([], true)
  | fuel + 1, text =>
    let (front, proper) := alphabet.readGroup (text.take alphabet.length)
    if proper then
      let (rest, all) := read alphabet fuel (text.drop alphabet.length)
      (front ++ rest, all)
    else (front, false)

/-- Text in lines of a width, or in one that has no end. -/
def inLines (width : Nat) : Nat → Octets → Octets
  | 0, text => text
  | _, [] => []
  | fuel + 1, text => if width = 0 then text else text.take width ++ '\n' :: inLines width fuel (text.drop width)

/-- Spells octets in an alphabet, or reads them. -/
def spell (alphabet : Alphabet) (call : Call) : Act Nat :=
  let known : List Choice := [("d", "decode", .nothing), ("i", "ignore-garbage", .nothing), ("w", "wrap", .value)]
  withOptions known true 1 call fun options => do
    let width := (options.last? "w").map count?
    match width, options.rest with
    | some none, _ => scold call.name (octets "invalid wrap size: " ++ inQuotes ((options.last? "w").getD []))
    | _, _ :: word :: _ => extra call word
    | width, names =>
      let (text, missing) ← allContents call.name names
      if missing ≠ 0 then return 1
      else if options.has "d" then
        let text := text.filter fun c =>
          c ≠ '\n' && (!options.has "i" || alphabet.letters.contains c || c = '=')
        let (found, proper) := alphabet.read (text.length + 1) text
        put found
        if proper then return 0 else scold call.name (octets "invalid input")
      else
        let width := (width.join).getD 76
        put (inLines width (text.length * 2 + 1) (alphabet.spelled (text.length + 1) text))
        return 0

/-! ### Digests -/

/-- A digest in hexadecimal digits. -/
def hexText (digest : List Nat) : Octets :=
  digest.flatMap fun octet =>
    let digits := Nat.toDigits 16 octet
    List.replicate (2 - digits.length) '0' ++ digits

/-- A kind of digest: its name, its digits, and how it is made. -/
structure DigestKind where
  title : String
  digits : Nat
  make : List Nat → List Nat

/-- The kinds of digests by the names of their programs. -/
def digestKinds : List (String × DigestKind) :=
  [("md5sum", ⟨"MD5", 32, Digest.md5⟩), ("sha1sum", ⟨"SHA1", 40, Digest.sha1⟩),
    ("sha224sum", ⟨"SHA224", 56, Digest.sha2 224⟩), ("sha256sum", ⟨"SHA256", 64, Digest.sha2 256⟩),
    ("sha384sum", ⟨"SHA384", 96, Digest.sha2 384⟩), ("sha512sum", ⟨"SHA512", 128, Digest.sha2 512⟩)]

/-- A name with what would break its line spelled out. -/
def lineName (name : Octets) : Octets :=
  name.flatMap fun c => if c = '\\' then ['\\', '\\'] else if c = '\n' then ['\\', 'n'] else if c = '\x0d' then ['\\', 'r']
    else [c]

/-- A line of a list of digests: the digest and the name. -/
def digestLine? (kind : DigestKind) (line : Octets) : Option (Octets × Octets) :=
  let line := if line.head? = some '\\' then line.drop 1 else line
  let digest := line.takeWhile fun c => (digitIn 16 c).isSome
  let front := octets s!"{kind.title} ("
  if front.isPrefixOf line then
    let rest := line.drop front.length
    let digest := rest.reverse.takeWhile (· ≠ ' ')
    let name := (rest.take (rest.length - digest.length)).reverse
    if (octets " = )").isPrefixOf name then some (digest.reverse, (name.drop 4).reverse) else none
  else match line.drop digest.length with
    | ' ' :: mark :: name =>
      if digest.length = kind.digits && (mark = ' ' || mark = '*') && name ≠ [] then some (digest, name) else none
    | _ => none

/-- Puts out digests of files, or compares them with a list. -/
def digestSum (kind : DigestKind) (call : Call) : Act Nat :=
  let known : List Choice := [("b", "binary", .nothing), ("c", "check", .nothing), ("", "tag", .nothing),
    ("t", "text", .nothing), ("z", "zero", .nothing), ("", "ignore-missing", .nothing), ("", "quiet", .nothing),
    ("", "status", .nothing), ("", "strict", .nothing), ("w", "warn", .nothing)]
  withOptions known true 1 call fun options => do
    let digest (name : Octets) : Act (Option Octets) := do
      let text? ← withInput name (fun fault => do
          let _ ← scold call.name (asWord name ++ octets ": " ++ reason fault)
          return none)
        fun descriptor => do
          let (text, fault) ← readAll descriptor
          match fault with
          | none => return some text
          | some fault =>
            let _ ← scold call.name (asWord name ++ octets ": " ++ reason fault)
            return none
      return text?.map fun text => hexText (kind.make (text.map Char.toNat))
    let quiet : Bool := options.has "status"
    let mut status := 0
    for name in inputNames options.rest do
      if !options.has "c" then
        match ← digest name with
        | none => status := 1
        | some digest =>
          let escaped : Bool := !options.has "z" && name.any fun c => c = '\\' || c = '\n' || c = '\x0d'
          let shown := if escaped then lineName name else name
          let mark := if options.lastOf? ["b", "t"] = some "b" then ['*'] else [' ']
          put ((if escaped then ['\\'] else []) ++ (if options.has "tag" then
              octets s!"{kind.title} (" ++ shown ++ octets ") = " ++ digest
            else digest ++ ' ' :: mark ++ shown) ++ [if options.has "z" then '\x00' else '\n'])
      else
        match ← contents? call.name name with
        | none => status := 1
        | some text =>
          let lines := bareLinesOf text
          let found := lines.filterMap (digestLine? kind)
          if found = [] then
            status ← scold call.name (asWord (if name = ['-'] then octets "standard input" else name) ++
              octets ": no properly formatted checksum lines found")
          else
            let mut wrong := 0
            let mut unread := 0
            for (wanted, file) in found do
              match ← digest file with
              | none =>
                unread := unread + 1
                if !quiet then put (file ++ octets ": FAILED open or read\n")
              | some digest =>
                if digest = wanted.map Char.toLower then
                  if !quiet && !options.has "quiet" then put (file ++ octets ": OK\n")
                else
                  wrong := wrong + 1
                  if !quiet then put (file ++ octets ": FAILED\n")
            let bad := lines.length - found.length
            let warn (count : Nat) (one many : String) : Act Unit := do
              if 0 < count && !quiet then
                let words := if count = 1 then one else many
                let _ ← scold call.name (octets s!"WARNING: {count} {words}")
            warn bad "line is improperly formatted" "lines are improperly formatted"
            warn unread "listed file could not be read" "listed files could not be read"
            warn wrong "computed checksum did NOT match" "computed checksums did NOT match"
            if 0 < wrong + unread || (options.has "strict" && 0 < bad) then status := 1
    return status

/-- Puts out cyclic checks and lengths of files. -/
def cksum (call : Call) : Act Nat :=
  let known : List Choice := [("a", "algorithm", .value), ("", "untagged", .nothing), ("", "tag", .nothing)]
  withOptions known true 1 call fun options => do
    let kind := (options.last? "a").bind fun name => digestKinds.lookup (spelled name ++ "sum")
    match kind with
    | some kind =>
      let front := if options.has "untagged" then [] else [octets "--tag"]
      digestSum kind { call with arguments := front ++ options.rest }
    | none =>
      let mut status := 0
      for name in inputNames options.rest do
        match ← contents? call.name name with
        | none => status := 1
        | some text =>
          put (decimal (Digest.cyclicCheck (text.map Char.toNat)) ++ ' ' :: decimal text.length ++
            (if options.rest = [] then [] else ' ' :: name) ++ ['\n'])
      return status

/-- Puts out short checks and sizes of files. -/
def sum (call : Call) : Act Nat :=
  withOptions [("r", "", .nothing), ("s", "sysv", .nothing)] true 1 call fun options => do
    let mut status := 0
    for name in inputNames options.rest do
      match ← contents? call.name name with
      | none => status := 1
      | some text =>
        let title := if options.rest = [] then [] else ' ' :: name
        if options.lastOf? ["r", "s"] = some "s" then
          let total := (text.map Char.toNat).foldl (· + ·) 0
          let folded := total % 65536 + total % Nat.pow 2 32 / 65536
          put (decimal (folded % 65536 + folded / 65536) ++ ' ' :: decimal ((text.length + 511) / 512) ++ title ++ ['\n'])
        else
          let digits := decimal (Digest.rotatingCheck (text.map Char.toNat))
          put (List.replicate (5 - digits.length) '0' ++ digits ++ ' ' ::
            rightIn 5 (decimal ((text.length + 1023) / 1024)) ++ title ++ ['\n'])
    return status

/-! ### Digits for octets -/

/-- How octets are shown. -/
structure DumpKind where
  letter : Char
  size : Nat
  trailer : Bool := false
deriving DecidableEq

/-- The digits that a number of so many octets may take in a base. -/
def DumpKind.width (kind : DumpKind) : Nat :=
  let bits := kind.size * 8
  match kind.letter with
  | 'a' | 'c' => 3
  | 'o' => (bits + 2) / 3
  | 'x' => bits / 4
  | 'u' => (decimal (Nat.pow 2 bits - 1)).length
  | _ => (decimal (Nat.pow 2 (bits - 1))).length + 1

/-- The names of characters that cannot be printed. -/
def characterNames : List String :=
  ["nul", "soh", "stx", "etx", "eot", "enq", "ack", "bel", "bs", "ht", "nl", "vt", "ff", "cr", "so", "si", "dle",
    "dc1", "dc2", "dc3", "dc4", "nak", "syn", "etb", "can", "em", "sub", "esc", "fs", "gs", "rs", "us", "sp"]

/-- How a number of a few octets is shown. -/
def DumpKind.text (kind : DumpKind) (group : List Nat) : Octets :=
  let value := Digest.wordOf group.reverse
  match kind.letter with
  | 'a' =>
    let value := value % 128
    if value = 127 then octets "del" else octets (characterNames.getD value (String.singleton (Char.ofNat value)))
  | 'c' =>
    let c := Char.ofNat value
    if value = 0 then ['\\', '0']
    else match escapeLetters.lookup c with
      | some letter => ['\\', letter]
      | none => if isPrintable c then [c] else threeOctal c
  | 'o' =>
    let digits := Nat.toDigits 8 value
    List.replicate (kind.width - digits.length) '0' ++ digits
  | 'x' =>
    let digits := Nat.toDigits 16 value
    List.replicate (kind.width - digits.length) '0' ++ digits
  | 'u' => decimal value
  | _ =>
    let half := Nat.pow 2 (kind.size * 8 - 1)
    if value < half then decimal value else '-' :: decimal (2 * half - value)

/-- Reads kinds one behind another. -/
def dumpKinds : Nat → Octets → Except Char (List DumpKind)
  | 0, _ => .ok []
  | _, [] => .ok []
  | fuel + 1, letter :: rest =>
    let finish (size : Nat) (rest : Octets) : Except Char (List DumpKind) := do
      let trailer : Bool := rest.head? = some 'z'
      let more ← dumpKinds fuel (if trailer then rest.drop 1 else rest)
      return ⟨letter, size, trailer⟩ :: more
    if letter = 'a' || letter = 'c' then finish 1 rest
    else if ['d', 'o', 'u', 'x'].contains letter then
      match rest with
      | 'C' :: rest => finish 1 rest
      | 'S' :: rest => finish 2 rest
      | 'I' :: rest => finish 4 rest
      | 'L' :: rest => finish 8 rest
      | rest =>
        let digits := rest.takeWhile Char.isDigit
        let size := if digits = [] then 4 else valueIn 10 digits
        if [1, 2, 4, 8].contains size then finish size (rest.drop digits.length) else .error letter
    else .error letter

/-- A line of octets, shown in a kind, with blanks so that all kinds are equally wide. -/
def DumpKind.line (kind : DumpKind) (full wide : Nat) (block : List Nat) : Octets :=
  let fields := full / kind.size
  let padding := wide - kind.width * fields
  let groups := Digest.groupsOf kind.size (block.length + 1) block
  let (text, _) := groups.zipIdx.foldl (fun (state : Octets × Nat) (group, index) =>
    let group := group ++ List.replicate (kind.size - group.length) 0
    let next := padding * (fields - 1 - index) / fields
    (state.1 ++ rightIn (state.2 - next + kind.width) (kind.text group), next)) ([], padding)
  if kind.trailer then
    let blank := fields - groups.length
    text ++ List.replicate (blank * kind.width + padding * blank / fields) ' ' ++ octets "  >" ++
      (block.map fun octet => let c := Char.ofNat octet
        if isPrintable c then c else '.') ++ ['<']
  else text

/-- Shows octets in lines behind addresses. -/
def dumpLines (kinds : List DumpKind) (full : Nat) (address : Nat → Octets) (all : Bool) :
    Nat → Nat → Option (List Nat) → Bool → List Nat → Octets
  | 0, _, _, _, _ => []
  | fuel + 1, offset, before, starred, octets =>
    let block := octets.take full
    if block = [] then []
    else if !all && some block = before && block.length = full then
      (if starred then [] else ['*', '\n']) ++
        dumpLines kinds full address all fuel (offset + full) before true (octets.drop full)
    else
      let wide := (kinds.map fun kind => (kind.width + 1) * (full / kind.size)).foldl max 0
      let place := address offset
      let lines := kinds.zipIdx.flatMap fun (kind, index) =>
        (if index = 0 then place else List.replicate place.length ' ') ++ kind.line full wide block ++ ['\n']
      lines ++ dumpLines kinds full address all fuel (offset + block.length) (some block) false (octets.drop full)

/-- Shows octets. -/
def od (call : Call) : Act Nat :=
  let short : List (String × DumpKind) := [("a", ⟨'a', 1, false⟩), ("b", ⟨'o', 1, false⟩), ("c", ⟨'c', 1, false⟩),
    ("d", ⟨'u', 2, false⟩), ("i", ⟨'d', 4, false⟩), ("l", ⟨'d', 8, false⟩), ("o", ⟨'o', 2, false⟩),
    ("s", ⟨'d', 2, false⟩), ("x", ⟨'x', 2, false⟩), ("D", ⟨'u', 4, false⟩), ("H", ⟨'x', 4, false⟩),
    ("X", ⟨'x', 4, false⟩), ("O", ⟨'o', 4, false⟩), ("B", ⟨'o', 2, false⟩)]
  let known : List Choice := [("A", "address-radix", .value), ("j", "skip-bytes", .value), ("N", "read-bytes", .value),
    ("t", "format", .value), ("v", "output-duplicates", .nothing), ("w", "width", .perhaps)] ++
    short.map fun entry => (entry.1, "", .nothing)
  withOptions known true 1 call fun options => do
    let wanted : Except (Char × Octets) (List DumpKind) := do
      let found ← options.given.mapM fun (key, value) =>
        if key = "t" then
          match dumpKinds (value.length + 1) value with
          | .ok kinds => Except.ok kinds
          | .error letter => .error (letter, value)
        else .ok ((short.lookup key).toList)
      return found.flatten
    match wanted with
    | .error (letter, value) =>
      scold call.name (octets "invalid character '" ++ [letter] ++ octets "' in type string " ++ inQuotes value)
    | .ok kinds =>
      let kinds := if kinds = [] then [⟨'o', 2, false⟩] else kinds
      let size := (kinds.map (·.size)).foldl max 1
      let full := match options.last? "w" with
        | none => 16
        | some [] => 32
        | some text => valueIn 10 text
      let full := if full % size = 0 && 0 < full then full else size
      let (text, missing) ← allContents call.name options.rest
      let unread : Bool := missing = (inputNames options.rest).length
      let skip := ((options.last? "j").bind multiple?).getD 0
      if unread then return 1
      else if text.length < skip then scold call.name (octets "cannot skip past end of combined input")
      else
        let text := text.drop skip
        let text := match (options.last? "N").bind multiple? with
          | some count => text.take count
          | none => text
        let address (offset : Nat) : Octets :=
          let zeros (width : Nat) (digits : List Char) : Octets := List.replicate (width - digits.length) '0' ++ digits
          match options.last? "A" with
          | some ['n'] => []
          | some ['d'] => zeros 7 (decimal offset)
          | some ['x'] => zeros 6 (Nat.toDigits 16 offset)
          | _ => zeros 7 (Nat.toDigits 8 offset)
        put (dumpLines kinds full address (options.has "v") (text.length + 1) skip none false (text.map Char.toNat))
        let last := address (skip + text.length)
        put (if last = [] then [] else last ++ ['\n'])
        return if missing = 0 then 0 else 1

end Workyard.Shell.Program
